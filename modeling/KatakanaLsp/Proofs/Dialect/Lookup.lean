import KatakanaLsp.Dialect.Coverage
import Mathlib.Data.List.Nodup

/-!
# Looking up in a table

Both lookups of a table take the first entry that fits. Which entry that is hardly ever matters: a
name is spelled as soon as some entry means it, whichever comes first, and where no token is
repeated, a token has no entry but its own. Then the two lookups fit together:

> `Table.spells_iff`: in a table without repeated tokens, a name has a token that reads back as the
> name exactly if some entry means it.

Repetitions are found by walking over the tokens with a list of those seen. Without the walk, the
repetition that is found is the one at the least index (`FirstRepeat`):

> `firstRepeated?_eq_some_iff`: the walk finds a token exactly if it is the first repetition.

> `firstRepeated?_eq_none_iff`: it finds none exactly if the tokens are distinct.
-/

namespace KatakanaLsp.Dialect

/-! ## Repetitions -/

/-- A string is the first repetition in a list, behind strings that were seen before: it stands at
an index and was seen in front of that, and no string at a lesser index was. -/
def FirstRepeat (seen l : List String) (s : String) : Prop :=
  ∃ i, l[i]? = some s ∧ s ∈ seen ++ l.take i ∧
    ∀ j < i, ∀ r, l[j]? = some r → r ∉ seen ++ l.take j

/-- What was seen before an index of a list counts from the string in front on. -/
theorem mem_seen_cons {seen l : List String} {s r : String} :
    r ∈ seen ++ s :: l ↔ r ∈ (s :: seen) ++ l := by
  simp only [List.mem_append, List.mem_cons]
  constructor
  · rintro (h | h | h)
    · exact Or.inl (Or.inr h)
    · exact Or.inl (Or.inl h)
    · exact Or.inr h
  · rintro ((h | h) | h)
    · exact Or.inr (Or.inl h)
    · exact Or.inl h
    · exact Or.inr (Or.inr h)

/-- **The walk over a list finds its first repetition.** -/
theorem firstRepeated?_eq_some_iff {seen l : List String} {s : String} :
    firstRepeated? seen l = some s ↔ FirstRepeat seen l s := by
  induction l generalizing seen with
  | nil =>
    constructor
    · intro h
      cases h
    · rintro ⟨i, hi, -⟩
      cases hi
  | cons r l ih =>
    rw [firstRepeated?]
    by_cases hr : r ∈ seen
    · rw [if_pos hr]
      constructor
      · intro h
        obtain rfl := Option.some.inj h
        refine ⟨0, rfl, List.mem_append_left _ hr, ?_⟩
        intro j hj
        exact absurd hj (Nat.not_lt_zero j)
      · rintro ⟨i, hi, -, hfirst⟩
        cases i with
        | zero => exact hi
        | succ i =>
          -- the string in front was seen, so it would be a repetition before this one
          exact absurd (List.mem_append_left _ hr) (hfirst 0 (Nat.succ_pos i) r rfl)
    · rw [if_neg hr, ih]
      constructor
      · rintro ⟨i, hi, hseen, hfirst⟩
        refine ⟨i + 1, hi, mem_seen_cons.mpr hseen, ?_⟩
        intro j hj t ht
        cases j with
        | zero =>
          obtain rfl := Option.some.inj ht
          rw [List.take_zero, List.append_nil]
          exact hr
        | succ j =>
          intro hin
          exact hfirst j (Nat.lt_of_succ_lt_succ hj) t ht (mem_seen_cons.mp hin)
      · rintro ⟨i, hi, hseen, hfirst⟩
        cases i with
        | zero =>
          obtain rfl := Option.some.inj hi
          rw [List.take_zero, List.append_nil] at hseen
          exact absurd hseen hr
        | succ i =>
          refine ⟨i, hi, mem_seen_cons.mp hseen, ?_⟩
          intro j hj t ht hin
          exact hfirst (j + 1) (Nat.succ_lt_succ hj) t ht (mem_seen_cons.mpr hin)

/-- Behind strings that were seen, nothing is repeated exactly if the list is distinct and shares
nothing with them. -/
theorem firstRepeated?_eq_none {seen l : List String} :
    firstRepeated? seen l = none ↔ l.Nodup ∧ ∀ s ∈ l, s ∉ seen := by
  induction l generalizing seen with
  | nil => simp [firstRepeated?]
  | cons r l ih =>
    rw [firstRepeated?, List.nodup_cons, List.forall_mem_cons]
    by_cases hr : r ∈ seen
    · rw [if_pos hr]
      constructor
      · intro h
        cases h
      · rintro ⟨-, hfresh, -⟩
        exact absurd hr hfresh
    · rw [if_neg hr, ih]
      constructor
      · rintro ⟨hdistinct, hfresh⟩
        refine ⟨⟨fun hin => hfresh r hin (List.mem_cons_self ..), hdistinct⟩, hr, ?_⟩
        intro s hs hin
        exact hfresh s hs (List.mem_cons_of_mem r hin)
      · rintro ⟨⟨hnew, hdistinct⟩, -, hfresh⟩
        refine ⟨hdistinct, ?_⟩
        intro s hs hin
        rcases List.mem_cons.mp hin with rfl | hin
        · exact hnew hs
        · exact hfresh s hs hin

/-- **The walk finds nothing exactly in a list without repetitions.** -/
theorem firstRepeated?_eq_none_iff {l : List String} : firstRepeated? [] l = none ↔ l.Nodup := by
  rw [firstRepeated?_eq_none]
  constructor
  · exact fun h => h.1
  · exact fun h => ⟨h, fun _ _ => List.not_mem_nil⟩

/-! ## Entries -/

attribute [ext] Entry

/-- Where no key is repeated, a search by key finds the member that the key belongs to. -/
theorem find?_key {α : Type} {key : α → String} {l : List α} (h : (l.map key).Nodup) {a : α}
    (ha : a ∈ l) : l.find? (key · == key a) = some a := by
  cases hfound : l.find? (key · == key a) with
  | none =>
    have hno := List.find?_eq_none.mp hfound a ha
    exact absurd (beq_self_eq_true (key a)) hno
  | some b =>
    have hfits := List.find?_some hfound
    have hkey : key b = key a := beq_iff_eq.mp hfits
    rw [List.inj_on_of_nodup_map h (List.mem_of_find?_eq_some hfound) ha hkey]

/-- What a search by key comes to belongs to a member with the key. -/
theorem exists_of_find?_key {α β : Type} {key : α → String} {value : α → β} {l : List α}
    {k : String} {v : β} (h : (l.find? (key · == k)).map value = some v) :
    ∃ a ∈ l, key a = k ∧ value a = v := by
  obtain ⟨a, hfound, hvalue⟩ := Option.map_eq_some_iff.mp h
  have hkey := List.find?_some hfound
  exact ⟨a, List.mem_of_find?_eq_some hfound, beq_iff_eq.mp hkey, hvalue⟩

namespace Table

/-- A table spells a name: some entry means it. -/
def Means (t : Table) (name : String) : Prop := ∃ e ∈ t.entries, e.meaning = name

instance (t : Table) (name : String) : Decidable (t.Means name) :=
  inferInstanceAs (Decidable (∃ e ∈ t.entries, e.meaning = name))

variable {t : Table}

/-- A name has no token exactly if no entry means it. -/
theorem token?_eq_none_iff {name : String} : t.token? name = none ↔ ¬ t.Means name := by
  rw [token?, Option.map_eq_none_iff, List.find?_eq_none]
  constructor
  · rintro h ⟨e, he, hname⟩
    exact h e he (beq_iff_eq.mpr hname)
  · intro h e he hname
    exact h ⟨e, he, beq_iff_eq.mp hname⟩

/-- The token of a name is that of an entry which means it. -/
theorem exists_of_token? {name token : String} (h : t.token? name = some token) :
    ∃ e ∈ t.entries, e.token = token ∧ e.meaning = name := by
  obtain ⟨e, he, hname, htoken⟩ := exists_of_find?_key h
  exact ⟨e, he, htoken, hname⟩

/-- Without repeated tokens, each entry says what its token means. -/
theorem meaning?_token (h : t.tokens.Nodup) {e : Entry} (he : e ∈ t.entries) :
    t.meaning? e.token = some e.meaning := by
  rw [meaning?, find?_key h he]
  rfl

/-- **Without repeated tokens, what is spelled reads back.** -/
theorem spells_iff (h : t.tokens.Nodup) {name : String} : t.spells name = true ↔ t.Means name := by
  rw [spells]
  cases htoken : t.token? name with
  | none =>
    have hno := token?_eq_none_iff.mp htoken
    constructor
    · intro hspells
      cases hspells
    · intro hmeans
      exact absurd hmeans hno
  | some token =>
    obtain ⟨e, he, rfl, rfl⟩ := exists_of_token? htoken
    constructor
    · intro _
      exact ⟨e, he, rfl⟩
    · intro _
      rw [Option.bind_some, meaning?_token h he]
      exact beq_self_eq_true _

end Table

end KatakanaLsp.Dialect
