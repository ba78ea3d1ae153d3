import KatakanaLsp.Proofs.Text.Decimal
import KatakanaLsp.Text.Blank
import Mathlib.Data.List.DropRight

/-!
# What trimming takes off

Trimming takes off the blanks around a text and stops at the first character that is none. So what
stands between blanks comes out as it is, if it has no blanks at its ends of its own
(`trim_surrounded`), and what comes out is always such a text (`unpadded_trim`):

> `trim_eq_iff`: trimming comes to the one text without blanks at its ends that has only blanks
> around it.

Digits are no blanks, and a blank has no letter case.
-/

namespace KatakanaLsp.Text

/-- Nothing is dropped where the first character is no blank. -/
theorem dropWhile_isBlank_cons {c : Char} (hc : isBlank c = false) (s : List Char) :
    (c :: s).dropWhile isBlank = c :: s := by
  rw [List.dropWhile_cons_of_neg]
  rw [hc]
  exact Bool.false_ne_true

/-- Nothing is dropped in front of a text that does not begin with a blank. -/
theorem dropWhile_eq_self {s : List Char} (h : ∀ c ∈ s.head?, isBlank c = false) :
    s.dropWhile isBlank = s := by
  cases s with
  | nil => rfl
  | cons c s => exact dropWhile_isBlank_cons (h c rfl) s

/-- Nothing is taken off behind a text that does not end with a blank. -/
theorem trimEnd_eq_self {s : List Char} (h : ∀ c ∈ s.getLast?, isBlank c = false) :
    trimEnd s = s := by
  rw [← List.head?_reverse] at h
  rw [trimEnd, dropWhile_eq_self h, List.reverse_reverse]

/-- Blanks at the end are taken off, and then what stands in front of them is trimmed. -/
theorem trimEnd_append {s right : List Char} (hright : ∀ c ∈ right, isBlank c = true) :
    trimEnd (s ++ right) = trimEnd s := by
  have hright' : ∀ c ∈ right.reverse, isBlank c = true := by
    intro c hc
    exact hright c (List.mem_reverse.mp hc)
  rw [trimEnd, List.reverse_append, List.dropWhile_append_of_pos hright']
  rfl

/-- A text without blanks at its ends. -/
structure Unpadded (s : List Char) : Prop where
  head : ∀ c ∈ s.head?, isBlank c = false
  last : ∀ c ∈ s.getLast?, isBlank c = false

/-- Blanks on either side of an unpadded text are taken off, and nothing else is. -/
theorem trim_surrounded {left core right : List Char} (hleft : ∀ c ∈ left, isBlank c = true)
    (hcore : Unpadded core) (hright : ∀ c ∈ right, isBlank c = true) :
    trim (left ++ (core ++ right)) = core := by
  rw [trim, trimStart, List.dropWhile_append_of_pos hleft]
  cases core with
  | nil =>
    -- the blanks of both sides are one run, and nothing stops it
    have hnone : right.dropWhile isBlank = [] := List.dropWhile_eq_nil_iff.mpr hright
    rw [List.nil_append, hnone]
    rfl
  | cons c cs =>
    have hstart : (c :: cs ++ right).dropWhile isBlank = c :: cs ++ right :=
      dropWhile_isBlank_cons (hcore.head c rfl) (cs ++ right)
    rw [hstart, trimEnd_append hright, trimEnd_eq_self hcore.last]

/-- A text without any blanks has none at its ends. -/
theorem unpadded_of_no_blank {s : List Char} (h : ∀ c ∈ s, isBlank c = false) : Unpadded s :=
  ⟨fun c hc => h c (List.mem_of_mem_head? hc), fun c hc => h c (List.mem_of_mem_getLast? hc)⟩

/-- What trimming leaves has no blanks at its ends. -/
theorem unpadded_trim (s : List Char) : Unpadded (trim s) := by
  constructor
  · intro c hc
    obtain ⟨more, hmore⟩ : trim s <+: trimStart s := List.rdropWhile_prefix isBlank (trimStart s)
    obtain ⟨rest, hrest⟩ := List.head?_eq_some_iff.mp hc
    have hstart : (s.dropWhile isBlank).head? = some c := by
      show (trimStart s).head? = some c
      rw [← hmore, hrest]
      rfl
    have hnot := List.head?_dropWhile_not isBlank s
    rw [hstart] at hnot
    exact hnot
  · intro c hc
    obtain ⟨front, hfront⟩ := List.getLast?_eq_some_iff.mp hc
    have hne : (trimStart s).rdropWhile isBlank ≠ [] := by
      show trim s ≠ []
      rw [hfront]
      exact List.concat_ne_nil c front
    have hnot := List.rdropWhile_last_not isBlank (trimStart s) hne
    have hlast : ((trimStart s).rdropWhile isBlank).getLast hne = c := by
      rw [List.getLast_eq_iff_getLast?_eq_some]
      exact hc
    rw [hlast] at hnot
    exact Bool.eq_false_iff.mpr hnot

/-- A text is another with blanks on either side. -/
def Padded (core s : List Char) : Prop :=
  ∃ left right, s = left ++ (core ++ right) ∧ (∀ c ∈ left, isBlank c = true) ∧
    ∀ c ∈ right, isBlank c = true

/-- What is taken off is blank. -/
theorem padded_trim (s : List Char) : Padded (trim s) s := by
  refine ⟨s.takeWhile isBlank, (trimStart s).rtakeWhile isBlank, ?_, ?_, ?_⟩
  · have hend : trim s ++ (trimStart s).rtakeWhile isBlank = trimStart s :=
      List.rdropWhile_append_rtakeWhile
    rw [hend]
    exact List.takeWhile_append_dropWhile.symm
  · intro c hc
    exact List.mem_takeWhile_imp hc
  · intro c hc
    exact List.mem_rtakeWhile_imp hc

/-- **Trimming comes to the one unpadded text that has only blanks around it.** -/
theorem trim_eq_iff {s core : List Char} :
    trim s = core ↔ Unpadded core ∧ Padded core s := by
  constructor
  · rintro rfl
    exact ⟨unpadded_trim s, padded_trim s⟩
  · rintro ⟨hcore, left, right, rfl, hleft, hright⟩
    exact trim_surrounded hleft hcore hright

/-- Characters that are no blanks are what trimming leaves of them and blanks around them. -/
theorem trim_eq_of_padded {s core : List Char} (h : Padded core s)
    (hcore : ∀ c ∈ core, isBlank c = false) : trim s = core :=
  trim_eq_iff.mpr ⟨unpadded_of_no_blank hcore, h⟩

/-- Nothing is left exactly of a blank text. -/
theorem trim_eq_nil_iff {s : List Char} : trim s = [] ↔ ∀ c ∈ s, isBlank c = true := by
  rw [trim_eq_iff]
  constructor
  · rintro ⟨-, left, right, rfl, hleft, hright⟩
    simpa [or_imp, forall_and] using ⟨hleft, hright⟩
  · intro h
    exact ⟨⟨nofun, nofun⟩, s, [], by simp, h, nofun⟩

/-- Only the capital letters of ASCII have another lower case. -/
theorem toLower_eq_self {c : Char} (h : ¬ (0x41 ≤ c.toNat ∧ c.toNat ≤ 0x5A)) : c.toLower = c :=
  dif_neg h

/-- A blank has no letter case. -/
theorem toLower_of_isBlank {c : Char} (hc : isBlank c = true) : c.toLower = c := by
  apply toLower_eq_self
  simp only [isBlank, Bool.or_eq_true, Bool.and_eq_true, decide_eq_true_eq, beq_iff_eq] at hc
  omega

/-- Nor has a digit. -/
theorem toLower_of_isDigit {c : Char} (hc : Decimal.isDigit c = true) : c.toLower = c := by
  apply toLower_eq_self
  have := Decimal.toNat_range_of_isDigit hc
  omega

/-- A digit is no blank. -/
theorem isBlank_of_isDigit {c : Char} (hc : Decimal.isDigit c = true) : isBlank c = false := by
  obtain ⟨hlow, hhigh⟩ := Decimal.toNat_range_of_isDigit hc
  rw [Bool.eq_false_iff]
  intro hblank
  simp only [isBlank, Bool.or_eq_true, Bool.and_eq_true, decide_eq_true_eq, beq_iff_eq] at hblank
  omega

end KatakanaLsp.Text
