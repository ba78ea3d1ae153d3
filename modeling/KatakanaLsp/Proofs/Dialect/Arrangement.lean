import KatakanaLsp.Proofs.Dialect.Verdict

/-!
# Tables in another order, and tables that grow

The check of keywords looks up the first spelling of a keyword and the first meaning of that. For a
table that repeats tokens this depends on the order of its entries, and another entry can change
which spelling comes first. The verdict on three tables depends on none of that: it asks of a table
only whether its tokens are distinct and which names it means.

> `Table.Carries`: one table carries another if it keeps its tokens distinct and means all that the
> other means.

Tables that carry tables which cover the vocabulary cover it too (`Covers.carried`). A table in
another order carries the table and is carried by it, and a table with a new token carries the table
without:

> `code_validate_arranged`: the exit code is the same for the same entries in any order, under any
> category, and with functions and types exchanged; and once it is zero, it stays zero when an entry
> with a new token is put in anywhere.
-/

namespace KatakanaLsp.Dialect

namespace Table

/-- A table keeps the tokens of another one distinct, if they are, and means all that it means. -/
structure Carries (u t : Table) : Prop where
  distinct : t.tokens.Nodup → u.tokens.Nodup
  means : ∀ name, t.Means name → u.Means name

/-- A table with an entry put in in front of the entry at an index, or behind all of them. -/
def insertAt (t : Table) (i : Nat) (e : Entry) : Table :=
  ⟨t.category, t.entries.take i ++ e :: t.entries.drop i⟩

variable {t u : Table}

theorem Carries.refl (t : Table) : t.Carries t := ⟨id, fun _ h => h⟩

/-- The order of the entries does not matter, and neither does the category. -/
theorem carries_of_perm (h : u.entries.Perm t.entries) : u.Carries t := by
  constructor
  · intro hdistinct
    have htokens : u.tokens.Perm t.tokens := h.map _
    exact htokens.nodup_iff.mpr hdistinct
  · intro name hmeans
    obtain ⟨e, he, hname⟩ := hmeans
    exact ⟨e, h.mem_iff.mpr he, hname⟩

/-- An entry that is put in comes to the others, wherever that is. -/
theorem entries_insertAt (t : Table) (i : Nat) (e : Entry) :
    (t.insertAt i e).entries.Perm (e :: t.entries) := by
  have hfront : (t.entries.take i ++ e :: t.entries.drop i).Perm
      (e :: (t.entries.take i ++ t.entries.drop i)) := List.perm_middle
  rwa [List.take_append_drop] at hfront

/-- An entry with a new token spoils nothing. It may well spell what is spelled already. -/
theorem carries_insertAt {e : Entry} (h : e.token ∉ t.tokens) (i : Nat) :
    (t.insertAt i e).Carries t := by
  have hentries := t.entries_insertAt i e
  constructor
  · intro hdistinct
    have htokens : (t.insertAt i e).tokens.Perm (e.token :: t.tokens) := hentries.map _
    exact htokens.nodup_iff.mpr (List.nodup_cons.mpr ⟨h, hdistinct⟩)
  · intro name hmeans
    obtain ⟨f, hf, hname⟩ := hmeans
    exact ⟨f, hentries.mem_iff.mpr (List.mem_cons_of_mem e hf), hname⟩

end Table

variable {keywords functions types keywords' functions' types' : Table}

/-- **Tables that carry covering tables cover the vocabulary too.** -/
theorem Covers.carried (h : Covers keywords functions types) (hk : keywords'.Carries keywords)
    (hf : functions'.Carries functions) (ht : types'.Carries types) :
    Covers keywords' functions' types' := by
  -- what one of the two tables of built-ins spells, one of the other two does
  have hbuiltin (name : String) (hmeans : functions.Means name ∨ types.Means name) :
      functions'.Means name ∨ types'.Means name := by
    rcases hmeans with hin | hin
    · exact Or.inl (hf.means name hin)
    · exact Or.inr (ht.means name hin)
  refine ⟨?_, ?_, ?_, ?_⟩
  · have hdistinct := h.distinct
    rw [List.forall_mem_cons, List.forall_mem_cons, List.forall_mem_singleton] at hdistinct ⊢
    exact ⟨hk.distinct hdistinct.1, hf.distinct hdistinct.2.1, ht.distinct hdistinct.2.2⟩
  · intro k hin
    exact hk.means k (h.spelled k hin)
  · intro name hin
    exact hbuiltin name (h.functionsSpelled name hin)
  · intro name hin
    exact hbuiltin name (h.typesSpelled name hin)

/-- It does not matter which of the two tables of built-ins spells a name. -/
theorem Covers.swap (h : Covers keywords functions types) : Covers keywords types functions := by
  refine ⟨?_, h.spelled, ?_, ?_⟩
  · have hdistinct := h.distinct
    rw [List.forall_mem_cons, List.forall_mem_cons, List.forall_mem_singleton] at hdistinct ⊢
    exact ⟨hdistinct.1, hdistinct.2.2, hdistinct.2.1⟩
  · intro name hin
    exact (h.functionsSpelled name hin).symm
  · intro name hin
    exact (h.typesSpelled name hin).symm

theorem code_validate_eq_zero_iff :
    (validate keywords functions types).1 = 0 ↔ Covers keywords functions types := by
  rw [← checkTables_ok_iff, code_validate]
  cases (checkTables keywords functions types).result <;> simp

/-- The exit code says no more than whether the tables cover the vocabulary. -/
theorem code_validate_congr
    (h : Covers keywords' functions' types' ↔ Covers keywords functions types) :
    (validate keywords' functions' types').1 = (validate keywords functions types).1 := by
  rw [← checkTables_ok_iff, ← checkTables_ok_iff] at h
  rw [code_validate, code_validate]
  cases hthere : (checkTables keywords' functions' types').result with
  | ok _ => rw [h.mp hthere]
  | error _ =>
    cases hhere : (checkTables keywords functions types).result with
    | ok _ =>
      rw [h.mpr hhere] at hthere
      cases hthere
    | error _ => rfl

/-- **The verdict does not depend on the arrangement of the tables, and it survives growth.** The
exit code is the same for the same entries in any order and under any category, and with the tables
of functions and of types exchanged. If it is zero, it is zero still when an entry whose token is
new to its table is put in at any place. -/
theorem code_validate_arranged (keywords functions types : Table) :
    (∀ keywords' functions' types' : Table, keywords'.entries.Perm keywords.entries →
      functions'.entries.Perm functions.entries → types'.entries.Perm types.entries →
        (validate keywords' functions' types').1 = (validate keywords functions types).1) ∧
    (validate keywords types functions).1 = (validate keywords functions types).1 ∧
    ((validate keywords functions types).1 = 0 → ∀ (i : Nat) (e : Entry),
      (e.token ∉ keywords.tokens → (validate (keywords.insertAt i e) functions types).1 = 0) ∧
      (e.token ∉ functions.tokens → (validate keywords (functions.insertAt i e) types).1 = 0) ∧
      (e.token ∉ types.tokens → (validate keywords functions (types.insertAt i e)).1 = 0)) := by
  refine ⟨?_, ?_, ?_⟩
  · intro keywords' functions' types' hk hf ht
    apply code_validate_congr
    constructor
    · intro h
      exact h.carried (Table.carries_of_perm hk.symm) (Table.carries_of_perm hf.symm)
        (Table.carries_of_perm ht.symm)
    · intro h
      exact h.carried (Table.carries_of_perm hk) (Table.carries_of_perm hf)
        (Table.carries_of_perm ht)
  · exact code_validate_congr ⟨Covers.swap, Covers.swap⟩
  · intro hzero i e
    have h : Covers keywords functions types := code_validate_eq_zero_iff.mp hzero
    simp only [code_validate_eq_zero_iff]
    refine ⟨?_, ?_, ?_⟩
    · intro hnew
      exact h.carried (Table.carries_insertAt hnew i) (.refl _) (.refl _)
    · intro hnew
      exact h.carried (.refl _) (Table.carries_insertAt hnew i) (.refl _)
    · intro hnew
      exact h.carried (.refl _) (.refl _) (Table.carries_insertAt hnew i)

/-- The dialect's own tables cover the vocabulary. -/
theorem code_validate_shipped :
    (validate Dialect.keywords builtinFunctions builtinTypes).1 = 0 := by
  decide +kernel

/-- The dialect's keywords backwards, under another category. -/
def turnedKeywords : Table := ⟨.builtinType, Dialect.keywords.entries.reverse⟩

/-- A second spelling of a keyword, which comes to stand in front of the first. -/
def secondSpelling : Entry := ⟨"プリント", "True"⟩

theorem code_validate_turned :
    turnedKeywords.entries.Perm Dialect.keywords.entries ∧
      (validate turnedKeywords builtinTypes builtinFunctions).1 = 0 ∧
      secondSpelling.token ∉ turnedKeywords.tokens ∧
      (validate (turnedKeywords.insertAt 0 secondSpelling) builtinFunctions builtinTypes).1 = 0 := by
  have hturned : turnedKeywords.entries.Perm Dialect.keywords.entries := List.reverse_perm _
  have hnew : secondSpelling.token ∉ turnedKeywords.tokens := by decide +kernel
  have hcode : (validate turnedKeywords builtinFunctions builtinTypes).1 = 0 :=
    ((code_validate_arranged Dialect.keywords builtinFunctions builtinTypes).1 _ _ _ hturned
      (.refl _) (.refl _)).trans code_validate_shipped
  obtain ⟨-, hswapped, hgrown⟩ := code_validate_arranged turnedKeywords builtinFunctions builtinTypes
  exact ⟨hturned, hswapped.trans hcode, hnew, (hgrown hcode 0 secondSpelling).1 hnew⟩

end KatakanaLsp.Dialect
