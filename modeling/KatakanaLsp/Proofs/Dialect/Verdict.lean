import KatakanaLsp.Proofs.Dialect.Lookup

/-!
# The verdict on three tables

`checkTables` runs check after check and ends at the first that fails. This file says what the
checks ask, without running them. Three tables cover the vocabulary (`Covers`) if no table repeats a
token, every keyword is meant by an entry of the first, and every built-in by an entry of one of the
other two. If they do not, there is exactly one fault that comes first (`FirstFault`), in the order:
repeated tokens, table by table; keywords; built-in functions; built-in types.

> `checkTables_decides`: tables pass exactly if they cover the vocabulary, and otherwise fail with
> the first fault.

Each check has a lemma that says when it passes and one that says how it fails. The one that needs
care is the check of keywords: it asks that a keyword be spelled and its spelling read back, which
is mere presence only because repeated tokens have been ruled out before (`Table.spells_iff`).
-/

namespace KatakanaLsp.Dialect

/-! ## What is asked of tables -/

/-- The first member of a list with a property. -/
def IsFirst {α : Type} (p : α → Prop) (l : List α) (x : α) : Prop :=
  ∃ before after, l = before ++ x :: after ∧ (∀ y ∈ before, ¬ p y) ∧ p x

/-- The names of a kind of built-in that neither table spells, in order. -/
def uncovered (functions types : Table) (kind : BuiltinKind) : List String :=
  kind.vocabulary.filter fun name => ¬ (functions.Means name ∨ types.Means name)

/-- Tables of keywords, of functions and of types that cover the vocabulary. -/
structure Covers (keywords functions types : Table) : Prop where
  distinct : ∀ t ∈ [keywords, functions, types], t.tokens.Nodup
  spelled : ∀ k ∈ Vocabulary.keywords, keywords.Means k
  functionsSpelled : ∀ name ∈ Vocabulary.builtinFunctions, functions.Means name ∨ types.Means name
  typesSpelled : ∀ name ∈ Vocabulary.builtinTypes, functions.Means name ∨ types.Means name

/-- The fault of three tables that comes first. -/
inductive FirstFault (keywords functions types : Table) : CoverageError → Prop where
  | repeated {t : Table} {token : String} :
      IsFirst (fun u => ¬ u.tokens.Nodup) [keywords, functions, types] t →
      FirstRepeat [] t.tokens token →
      FirstFault keywords functions types (.duplicateToken t.category token)
  | keyword {k : String} :
      (∀ t ∈ [keywords, functions, types], t.tokens.Nodup) →
      IsFirst (fun name => ¬ keywords.Means name) Vocabulary.keywords k →
      FirstFault keywords functions types (.missingKeyword k)
  | functions :
      (∀ t ∈ [keywords, functions, types], t.tokens.Nodup) →
      (∀ k ∈ Vocabulary.keywords, keywords.Means k) →
      uncovered functions types .functions ≠ [] →
      FirstFault keywords functions types
        (.missingBuiltins .functions (uncovered functions types .functions))
  | types :
      (∀ t ∈ [keywords, functions, types], t.tokens.Nodup) →
      (∀ k ∈ Vocabulary.keywords, keywords.Means k) →
      uncovered functions types .functions = [] →
      uncovered functions types .types ≠ [] →
      FirstFault keywords functions types
        (.missingBuiltins .types (uncovered functions types .types))

variable {keywords functions types : Table}

/-! ## First members -/

section First

variable {α : Type} {p : α → Prop}

theorem not_isFirst_nil {x : α} : ¬ IsFirst p [] x := by
  rintro ⟨before, after, hl, -⟩
  cases before <;> cases hl

/-- The first member stands in front, or comes first among the others. -/
theorem isFirst_cons_iff {a x : α} {l : List α} :
    IsFirst p (a :: l) x ↔ p a ∧ x = a ∨ ¬ p a ∧ IsFirst p l x := by
  constructor
  · rintro ⟨before, after, hl, hbefore, hx⟩
    cases before with
    | nil =>
      obtain ⟨rfl, -⟩ := List.cons.inj hl
      exact Or.inl ⟨hx, rfl⟩
    | cons b before =>
      obtain ⟨rfl, hrest⟩ := List.cons.inj hl
      obtain ⟨ha, hothers⟩ := List.forall_mem_cons.mp hbefore
      exact Or.inr ⟨ha, before, after, hrest, hothers, hx⟩
  · rintro (⟨ha, rfl⟩ | ⟨ha, before, after, rfl, hbefore, hx⟩)
    · exact ⟨[], l, rfl, nofun, ha⟩
    · exact ⟨a :: before, after, rfl, List.forall_mem_cons.mpr ⟨ha, hbefore⟩, hx⟩

/-- Searching finds the first member. -/
theorem find?_eq_some_iff_isFirst {q : α → Bool} {l : List α} {x : α}
    (hq : ∀ a, q a = true ↔ p a) : l.find? q = some x ↔ IsFirst p l x := by
  induction l with
  | nil =>
    constructor
    · intro h
      cases h
    · intro h
      exact absurd h not_isFirst_nil
  | cons a l ih =>
    rw [isFirst_cons_iff, List.find?_cons]
    by_cases ha : p a
    · rw [(hq a).mpr ha]
      constructor
      · intro h
        exact Or.inl ⟨ha, (Option.some.inj h).symm⟩
      · rintro (⟨-, rfl⟩ | ⟨hno, -⟩)
        · rfl
        · exact absurd ha hno
    · rw [Bool.eq_false_iff.mpr fun h => ha ((hq a).mp h)]
      constructor
      · intro h
        exact Or.inr ⟨ha, ih.mp h⟩
      · rintro (⟨hyes, -⟩ | ⟨-, h⟩)
        · exact absurd hyes ha
        · exact ih.mpr h

end First

/-! ## Checks one after another -/

namespace Checked

variable {a b : Checked} {e : CoverageError}

theorem andThen_ok_iff :
    (a.andThen b).result = .ok () ↔ a.result = .ok () ∧ b.result = .ok () := by
  unfold andThen
  cases ha : a.result with
  | ok _ => simp
  | error _ => simp [ha]

/-- What fails first is what fails. -/
theorem andThen_error_iff :
    (a.andThen b).result = .error e ↔
      a.result = .error e ∨ a.result = .ok () ∧ b.result = .error e := by
  unfold andThen
  cases ha : a.result with
  | ok _ => simp
  | error _ => simp [ha]

/-- A check with a report has the result that is reported. -/
theorem result_reporting (r : Except CoverageError Unit) (event : CoverageEvent) :
    (reporting r event).result = r := by
  unfold reporting
  cases r <;> rfl

end Checked

/-! ## Repeated tokens -/

theorem checkDistinct_ok_iff {t : Table} : checkDistinct t = .ok () ↔ t.tokens.Nodup := by
  rw [← firstRepeated?_eq_none_iff, checkDistinct]
  cases firstRepeated? [] t.tokens <;> simp

theorem checkDistinct_error_iff {t : Table} {e : CoverageError} :
    checkDistinct t = .error e ↔
      ∃ token, FirstRepeat [] t.tokens token ∧ e = .duplicateToken t.category token := by
  simp only [← firstRepeated?_eq_some_iff]
  rw [checkDistinct]
  cases firstRepeated? [] t.tokens with
  | none => simp
  | some token => simp [eq_comm]

/-- A repetition is found only where tokens are repeated. -/
theorem FirstRepeat.not_nodup {t : Table} {token : String} (h : FirstRepeat [] t.tokens token) :
    ¬ t.tokens.Nodup := by
  intro hdistinct
  rw [← firstRepeated?_eq_none_iff, firstRepeated?_eq_some_iff.mpr h] at hdistinct
  cases hdistinct

/-- Table by table, and then some other check. -/
def distinctThen (ts : List Table) (last : Checked) : Checked :=
  ts.foldr (fun t rest => (Checked.silent (checkDistinct t)).andThen rest) last

theorem distinctThen_ok_iff {ts : List Table} {last : Checked} :
    (distinctThen ts last).result = .ok () ↔
      (∀ t ∈ ts, t.tokens.Nodup) ∧ last.result = .ok () := by
  induction ts with
  | nil => simp [distinctThen]
  | cons t ts ih =>
    show ((Checked.silent (checkDistinct t)).andThen (distinctThen ts last)).result = .ok () ↔ _
    rw [Checked.andThen_ok_iff, Checked.silent, checkDistinct_ok_iff, ih, List.forall_mem_cons,
      and_assoc]

/-- The first table that repeats a token fails, or, if there is none, the other check. -/
theorem distinctThen_error_iff {ts : List Table} {last : Checked} {e : CoverageError} :
    (distinctThen ts last).result = .error e ↔
      (∃ t token, IsFirst (fun u : Table => ¬ u.tokens.Nodup) ts t ∧
        FirstRepeat [] t.tokens token ∧ e = .duplicateToken t.category token) ∨
      (∀ t ∈ ts, t.tokens.Nodup) ∧ last.result = .error e := by
  induction ts with
  | nil => simp [distinctThen, not_isFirst_nil]
  | cons t ts ih =>
    show ((Checked.silent (checkDistinct t)).andThen (distinctThen ts last)).result = .error e ↔ _
    rw [Checked.andThen_error_iff, Checked.silent, checkDistinct_ok_iff, checkDistinct_error_iff,
      ih, List.forall_mem_cons]
    simp only [isFirst_cons_iff]
    constructor
    · rintro (⟨token, hfirst, rfl⟩ | ⟨ht, ⟨u, token, hu, hfirst, rfl⟩ | ⟨hts, hlast⟩⟩)
      · exact Or.inl ⟨t, token, Or.inl ⟨hfirst.not_nodup, rfl⟩, hfirst, rfl⟩
      · exact Or.inl ⟨u, token, Or.inr ⟨not_not.mpr ht, hu⟩, hfirst, rfl⟩
      · exact Or.inr ⟨⟨ht, hts⟩, hlast⟩
    · rintro (⟨u, token, ⟨-, rfl⟩ | ⟨ht, hu⟩, hfirst, rfl⟩ | ⟨⟨ht, hts⟩, hlast⟩)
      · exact Or.inl ⟨token, hfirst, rfl⟩
      · exact Or.inr ⟨not_not.mp ht, Or.inl ⟨u, token, hu, hfirst, rfl⟩⟩
      · exact Or.inr ⟨ht, Or.inr ⟨hts, hlast⟩⟩

/-! ## Keywords -/

theorem not_spells_iff {t : Table} (h : t.tokens.Nodup) (name : String) :
    (!t.spells name) = true ↔ ¬ t.Means name := by
  rw [Bool.not_eq_true', ← Bool.not_eq_true, Table.spells_iff h]

theorem checkKeywordsIn_ok_iff {t : Table} (h : t.tokens.Nodup) :
    checkKeywordsIn t = .ok () ↔ ∀ k ∈ Vocabulary.keywords, t.Means k := by
  have hall : Vocabulary.keywords.find? (fun k => !t.spells k) = none ↔
      ∀ k ∈ Vocabulary.keywords, t.Means k := by
    simp only [List.find?_eq_none, not_spells_iff h, not_not]
  rw [← hall, checkKeywordsIn]
  cases Vocabulary.keywords.find? (fun k => !t.spells k) <;> simp

theorem checkKeywordsIn_error_iff {t : Table} (h : t.tokens.Nodup) {e : CoverageError} :
    checkKeywordsIn t = .error e ↔
      ∃ k, IsFirst (fun name => ¬ t.Means name) Vocabulary.keywords k ∧
        e = .missingKeyword k := by
  simp only [← find?_eq_some_iff_isFirst (not_spells_iff h)]
  rw [checkKeywordsIn]
  cases Vocabulary.keywords.find? (fun k => !t.spells k) with
  | none => simp
  | some k => simp [eq_comm]

/-! ## Built-ins -/

theorem missingFrom_eq (functions types : Table) (kind : BuiltinKind) :
    missingFrom [functions, types] kind.vocabulary = uncovered functions types kind := by
  have hnone (t : Table) (name : String) : (t.token? name).isNone = decide (¬ t.Means name) := by
    rw [Bool.eq_iff_iff, decide_eq_true_eq, Option.isNone_iff_eq_none]
    exact Table.token?_eq_none_iff
  unfold missingFrom uncovered
  congr 1
  funext name
  rw [List.all_cons, List.all_cons, List.all_nil, Bool.and_true, hnone, hnone]
  simp only [not_or, Bool.decide_and]

theorem uncovered_eq_nil_iff {kind : BuiltinKind} :
    uncovered functions types kind = [] ↔
      ∀ name ∈ kind.vocabulary, functions.Means name ∨ types.Means name := by
  simp [uncovered, List.filter_eq_nil_iff, or_iff_not_imp_left]

theorem builtinsCheck_ok_iff {kind : BuiltinKind} :
    (builtinsCheck [functions, types] kind).result = .ok () ↔
      uncovered functions types kind = [] := by
  rw [builtinsCheck, Checked.result_reporting, checkBuiltinsIn, missingFrom_eq]
  cases uncovered functions types kind <;> simp

theorem builtinsCheck_error_iff {kind : BuiltinKind} {e : CoverageError} :
    (builtinsCheck [functions, types] kind).result = .error e ↔
      uncovered functions types kind ≠ [] ∧
        e = .missingBuiltins kind (uncovered functions types kind) := by
  rw [builtinsCheck, Checked.result_reporting, checkBuiltinsIn, missingFrom_eq]
  cases uncovered functions types kind with
  | nil => simp
  | cons name names => simp [eq_comm]

/-! ## All checks -/

/-- The checks that come behind the one of repeated tokens. -/
def coverageChecks (keywords functions types : Table) : Checked :=
  (Checked.silent (checkKeywordsIn keywords)).andThen
    ((builtinsCheck [functions, types] .functions).andThen
      ((builtinsCheck [functions, types] .types).andThen
        ⟨.ok (), [summaryOf functions types]⟩))

theorem checkTables_eq (keywords functions types : Table) :
    checkTables keywords functions types =
      distinctThen [keywords, functions, types] (coverageChecks keywords functions types) := rfl

theorem coverageChecks_ok_iff (h : keywords.tokens.Nodup) :
    (coverageChecks keywords functions types).result = .ok () ↔
      (∀ k ∈ Vocabulary.keywords, keywords.Means k) ∧
        uncovered functions types .functions = [] ∧ uncovered functions types .types = [] := by
  rw [coverageChecks, Checked.andThen_ok_iff, Checked.andThen_ok_iff, Checked.andThen_ok_iff,
    Checked.silent, checkKeywordsIn_ok_iff h, builtinsCheck_ok_iff, builtinsCheck_ok_iff]
  simp only [and_true]

theorem coverageChecks_error_iff (h : keywords.tokens.Nodup) {e : CoverageError} :
    (coverageChecks keywords functions types).result = .error e ↔
      (∃ k, IsFirst (fun name => ¬ keywords.Means name) Vocabulary.keywords k ∧
        e = .missingKeyword k) ∨
      (∀ k ∈ Vocabulary.keywords, keywords.Means k) ∧
        ((uncovered functions types .functions ≠ [] ∧
            e = .missingBuiltins .functions (uncovered functions types .functions)) ∨
          uncovered functions types .functions = [] ∧ uncovered functions types .types ≠ [] ∧
            e = .missingBuiltins .types (uncovered functions types .types)) := by
  rw [coverageChecks, Checked.andThen_error_iff, Checked.andThen_error_iff,
    Checked.andThen_error_iff, Checked.silent, checkKeywordsIn_ok_iff h,
    checkKeywordsIn_error_iff h, builtinsCheck_ok_iff, builtinsCheck_ok_iff,
    builtinsCheck_error_iff, builtinsCheck_error_iff]
  simp only [reduceCtorEq, and_false, or_false]

theorem checkTables_ok_iff :
    (checkTables keywords functions types).result = .ok () ↔ Covers keywords functions types := by
  rw [checkTables_eq, distinctThen_ok_iff]
  constructor
  · rintro ⟨hdistinct, hchecks⟩
    obtain ⟨hspelled, hfunctions, htypes⟩ :=
      (coverageChecks_ok_iff (hdistinct keywords (List.mem_cons_self ..))).mp hchecks
    exact ⟨hdistinct, hspelled, uncovered_eq_nil_iff.mp hfunctions,
      uncovered_eq_nil_iff.mp htypes⟩
  · intro h
    have hkeywords : keywords.tokens.Nodup := h.distinct keywords (List.mem_cons_self ..)
    refine ⟨h.distinct, (coverageChecks_ok_iff hkeywords).mpr ?_⟩
    exact ⟨h.spelled, uncovered_eq_nil_iff.mpr h.functionsSpelled,
      uncovered_eq_nil_iff.mpr h.typesSpelled⟩

theorem checkTables_error_iff {e : CoverageError} :
    (checkTables keywords functions types).result = .error e ↔
      FirstFault keywords functions types e := by
  rw [checkTables_eq, distinctThen_error_iff]
  constructor
  · rintro (⟨t, token, ht, htoken, rfl⟩ | ⟨hdistinct, hfails⟩)
    · exact .repeated ht htoken
    · rcases (coverageChecks_error_iff (hdistinct _ (List.mem_cons_self ..))).mp hfails with
        ⟨k, hk, rfl⟩ | ⟨hspelled, ⟨hsome, rfl⟩ | ⟨hnone, hsome, rfl⟩⟩
      · exact .keyword hdistinct hk
      · exact .functions hdistinct hspelled hsome
      · exact .types hdistinct hspelled hnone hsome
  · intro h
    cases h with
    | repeated ht htoken => exact Or.inl ⟨_, _, ht, htoken, rfl⟩
    | keyword hdistinct hk =>
      exact Or.inr ⟨hdistinct, (coverageChecks_error_iff (hdistinct _ (List.mem_cons_self ..))).mpr
        (Or.inl ⟨_, hk, rfl⟩)⟩
    | functions hdistinct hspelled hsome =>
      exact Or.inr ⟨hdistinct, (coverageChecks_error_iff (hdistinct _ (List.mem_cons_self ..))).mpr
        (Or.inr ⟨hspelled, Or.inl ⟨hsome, rfl⟩⟩)⟩
    | types hdistinct hspelled hnone hsome =>
      exact Or.inr ⟨hdistinct, (coverageChecks_error_iff (hdistinct _ (List.mem_cons_self ..))).mpr
        (Or.inr ⟨hspelled, Or.inr ⟨hnone, hsome, rfl⟩⟩)⟩

/-- As a command, the checks end with zero exactly if they pass. -/
theorem code_validate (keywords functions types : Table) :
    (validate keywords functions types).1 =
      match (checkTables keywords functions types).result with
      | .ok () => 0
      | .error _ => 1 := by
  unfold validate
  cases h : (checkTables keywords functions types).result <;> simp [h]

/-- **Tables pass exactly if they cover the vocabulary, and otherwise fail with the first fault.**
The command ends with zero in the one case and with one in the other. -/
theorem checkTables_decides (keywords functions types : Table) :
    ((checkTables keywords functions types).result = .ok () ↔ Covers keywords functions types) ∧
    (∀ e, (checkTables keywords functions types).result = .error e ↔
      FirstFault keywords functions types e) ∧
    ((validate keywords functions types).1 = 0 ↔ Covers keywords functions types) ∧
    ((validate keywords functions types).1 = 1 ↔ ¬ Covers keywords functions types) := by
  refine ⟨checkTables_ok_iff, fun e => checkTables_error_iff, ?_⟩
  rw [← checkTables_ok_iff, code_validate]
  cases (checkTables keywords functions types).result <;> simp

end KatakanaLsp.Dialect
