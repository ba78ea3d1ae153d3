import KatakanaLsp.Json.Printer
import KatakanaLsp.Proofs.Text.Decimal

/-!
# Compact text has no controls

The log puts a body between line feeds without a mark of its own, so a body must not have one. In
compact text it has none, nor any other character below U+0020: a string escapes them, and all
else is made of letters, digits and punctuation.

> `plain_chars`: the compact text of a value has no character below U+0020.

`Plain` is closed under everything that the printers do with texts, and the proofs follow the
printers: numerals, then literals, then values.
-/

namespace KatakanaLsp

/-- A text without controls below U+0020. -/
def Plain (s : List Char) : Prop := ∀ c ∈ s, 0x20 ≤ c.toNat

namespace Plain

@[simp] theorem nil : Plain [] := by
  intro c hc
  exact absurd hc List.not_mem_nil

@[simp] theorem cons_iff {c : Char} {s : List Char} :
    Plain (c :: s) ↔ 0x20 ≤ c.toNat ∧ Plain s := by
  unfold Plain
  exact List.forall_mem_cons

@[simp] theorem append_iff {s t : List Char} : Plain (s ++ t) ↔ Plain s ∧ Plain t := by
  unfold Plain
  exact List.forall_mem_append

/-- What is taken from a plain text is plain. -/
theorem of_subset {s t : List Char} (hst : s ⊆ t) (ht : Plain t) : Plain s := by
  intro c hc
  exact ht c (hst hc)

theorem replicate (n : Nat) {c : Char} (hc : 0x20 ≤ c.toNat) : Plain (List.replicate n c) := by
  intro d hd
  rw [(List.mem_replicate.mp hd).2]
  exact hc

/-- A plain text has no line feed. -/
theorem lf_not_mem {s : List Char} (hs : Plain s) : '\n' ∉ s := by
  intro h
  exact absurd (hs '\n' h) (by decide)

/-- A plain text has no carriage return. -/
theorem cr_not_mem {s : List Char} (hs : Plain s) : '\r' ∉ s := by
  intro h
  exact absurd (hs '\r' h) (by decide)

end Plain

/-! ## Numerals -/

theorem Decimal.plain_digits (n : Nat) : Plain (digits n) := by
  intro c hc
  have := toNat_range_of_isDigit (isDigit_of_mem_digits hc)
  omega

theorem Decimal.plain_padded (width n : Nat) : Plain (padded width n) := by
  rw [padded, Plain.append_iff]
  exact ⟨Plain.replicate _ (by decide), plain_digits n⟩

namespace Binary64

theorem plain_plainText {ds : List Char} (hds : Plain ds) (width : Int) :
    Plain (plainText ds width) := by
  have hzeros (n : Nat) : Plain (List.replicate n '0') := Plain.replicate n (by decide)
  simp only [plainText]
  by_cases hsmall : width ≤ 0
  · rw [if_pos hsmall]
    simp [hds, hzeros]
  · rw [if_neg hsmall]
    split
    · simp [hds, hzeros]
    · rw [Plain.append_iff, Plain.cons_iff]
      exact ⟨hds.of_subset (List.take_subset ..), by decide, hds.of_subset (List.drop_subset ..)⟩

theorem plain_scientificText {ds : List Char} (hds : Plain ds) (exponent : Int) :
    Plain (scientificText ds exponent) := by
  unfold scientificText
  rw [Plain.append_iff, Plain.append_iff]
  refine ⟨⟨?_, ?_⟩, Decimal.plain_digits _⟩
  · split
    · exact hds
    · rw [Plain.cons_iff] at hds
      simp [hds.1, hds.2]
    · exact Plain.nil
  · split <;> simp

theorem plain_text (x : Binary64) : Plain x.text := by
  have hsign : Plain (if x.negative then ['-'] else []) := by
    split <;> simp
  cases hshort : (if x.mantissa = 0 then none else x.shortest?) with
  | none =>
    simp only [text, hshort, Plain.append_iff]
    exact ⟨hsign, by simp⟩
  | some d =>
    simp only [text, hshort, Plain.append_iff]
    refine ⟨hsign, ?_⟩
    split
    · exact plain_plainText (Decimal.plain_digits _) _
    · exact plain_scientificText (Decimal.plain_digits _) _

end Binary64

/-! ## Values -/

namespace Json

/-- The characters that are escaped by a letter, each with its letter. -/
def escapeLetters : List (Char × Char) :=
  [('"', '"'), ('\\', '\\'), ('\n', 'n'), ('\r', 'r'), ('\t', 't'), ('\x08', 'b'), ('\x0C', 'f')]

/-- A character is escaped by a letter, by its number if it is any other control, or not at all. -/
theorem escapeChar_cases (c : Char) :
    (∃ letter, (c, letter) ∈ escapeLetters ∧ escapeChar c = ['\\', letter]) ∨
      (c.toNat < 0x20 ∧ escapeChar c =
        ['\\', 'u', '0', '0', Nat.digitChar (c.toNat / 16), Nat.digitChar (c.toNat % 16)]) ∨
      (0x20 ≤ c.toNat ∧ c ≠ '"' ∧ c ≠ '\\' ∧ escapeChar c = [c]) := by
  have hback : Char.ofNat c.toNat = c := Char.ofNat_toNat c
  unfold escapeChar
  split
  · exact .inl ⟨'"', by decide, rfl⟩
  · exact .inl ⟨'\\', by decide, rfl⟩
  · exact .inl ⟨'n', by decide, rfl⟩
  · exact .inl ⟨'r', by decide, rfl⟩
  · exact .inl ⟨'t', by decide, rfl⟩
  next hquote hbackslash _ _ _ =>
    by_cases h8 : c.toNat = 0x08
    · obtain rfl : '\x08' = c := by rw [← hback, h8]
      exact .inl ⟨'b', by decide, rfl⟩
    by_cases hC : c.toNat = 0x0C
    · obtain rfl : '\x0C' = c := by rw [← hback, hC]
      exact .inl ⟨'f', by decide, rfl⟩
    rw [if_neg h8, if_neg hC]
    by_cases hlow : c.toNat < 0x20
    · exact .inr (.inl ⟨hlow, if_pos hlow⟩)
    · exact .inr (.inr ⟨Nat.le_of_not_lt hlow, hquote, hbackslash, if_neg hlow⟩)

/-- A character is escaped if it is a control, so that what stands for it is plain. -/
theorem plain_escapeChar (c : Char) : Plain (escapeChar c) := by
  have hletters : ∀ p ∈ escapeLetters, 0x20 ≤ p.2.toNat := by decide
  have hhex : ∀ n < 16, 0x20 ≤ (Nat.digitChar n).toNat := by decide
  obtain ⟨letter, hmem, heq⟩ | ⟨hlow, heq⟩ | ⟨hhigh, -, -, heq⟩ := escapeChar_cases c
  · simp [heq, hletters _ hmem]
  · have hfirst := hhex (c.toNat / 16) (by omega)
    have hsecond := hhex (c.toNat % 16) (by omega)
    simp [heq, hfirst, hsecond]
  · simp [heq, hhigh]

theorem plain_stringChars (s : List Char) : Plain (stringChars s) := by
  have hinside : Plain (s.flatMap escapeChar) := by
    intro c hc
    obtain ⟨d, -, hd⟩ := List.mem_flatMap.mp hc
    exact plain_escapeChar d c hd
  simp [stringChars, hinside]

theorem plain_numberChars (n : JsonNumber) : Plain (numberChars n) := by
  cases n with
  | int i =>
    by_cases hi : i < 0
    · rw [numberChars, if_pos hi, Plain.cons_iff]
      exact ⟨by decide, Decimal.plain_digits _⟩
    · rw [numberChars, if_neg hi]
      exact Decimal.plain_digits _
  | float x => exact x.plain_text

mutual

/-- **The compact text of a value has no character below U+0020.** -/
theorem plain_chars : ∀ j : Json, Plain j.chars
  | .null => by simp [chars]
  | .bool true => by simp [chars]
  | .bool false => by simp [chars]
  | .number n => by simp [chars, plain_numberChars n]
  | .string s => by simp [chars, plain_stringChars s.toList]
  | .array items => by simp [chars, plain_itemsChars items]
  | .object fields => by simp [chars, plain_fieldsChars fields]

theorem plain_itemsChars : ∀ items : List Json, Plain (itemsChars items)
  | [] => by simp [itemsChars]
  | [v] => by simp [itemsChars, plain_chars v]
  | v :: w :: rest => by simp [itemsChars, plain_chars v, plain_itemsChars (w :: rest)]

theorem plain_fieldsChars : ∀ fields : List (String × Json), Plain (fieldsChars fields)
  | [] => by simp [fieldsChars]
  | [(k, v)] => by simp [fieldsChars, plain_stringChars k.toList, plain_chars v]
  | (k, v) :: f :: rest => by
    simp [fieldsChars, plain_stringChars k.toList, plain_chars v, plain_fieldsChars (f :: rest)]

end

end Json

end KatakanaLsp
