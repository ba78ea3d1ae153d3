import KatakanaLsp.Completion.Candidate
import KatakanaLsp.Proofs.Dialect.Arrangement

/-!
# What completion offers of the vocabulary

Candidates are made from a table entry by entry, and the check of three tables never looks at them.
Yet it decides what they offer. Say that a table offers a name if it has a candidate whose detail
shows the name, which inserts its label, and whose label reads as the name; or, if it is a table of
functions, all that with a call in place of the name. A detail shows nothing but the meaning of the
entry, with a suffix that its category fixes, so that a table with distinct tokens offers exactly
what it means (`offersName_iff`, `offersCall_iff`). Hence

> `complete_iff_checkTables`: three tables pass the check exactly if their completions are complete
> and unambiguous, and there are as many completions as entries.
-/

namespace KatakanaLsp.Completion

open Dialect (Category Entry Table Covers checkTables checkTables_ok_iff)

/-! ## What is offered -/

/-- A table offers a name: it has a candidate that shows the name, inserts its label, and has a
label that reads as the name. -/
def OffersName (t : Table) (name : String) : Prop :=
  ∃ c ∈ candidatesOf t, c.detail = "Python: " ++ name ∧ c.insertText = c.label ∧
    t.meaning? c.label = some name

/-- A table offers a name as a call. -/
def OffersCall (t : Table) (name : String) : Prop :=
  ∃ c ∈ candidatesOf t, c.detail = "Python: " ++ name ++ "()" ∧ c.insertText = c.label ++ "()" ∧
    t.meaning? c.label = some name

/-- The completions for tables of keywords, of functions and of types are complete, and within a
table unambiguous. -/
structure Complete (keywords functions types : Table) : Prop where
  labels : ∀ t ∈ [keywords, functions, types], ((candidatesOf t).map (·.label)).Nodup
  keywordsOffered : ∀ k ∈ Dialect.Vocabulary.keywords, OffersName keywords k
  functionsOffered : ∀ name ∈ Dialect.Vocabulary.builtinFunctions,
    OffersCall functions name ∨ OffersName types name
  typesOffered : ∀ name ∈ Dialect.Vocabulary.builtinTypes,
    OffersCall functions name ∨ OffersName types name

/-! ## Candidates of one table -/

variable {t : Table} {name : String}

theorem labels_candidatesOf (t : Table) : (candidatesOf t).map (·.label) = t.tokens := by
  rw [candidatesOf, List.map_map]
  rfl

theorem length_candidatesOf (t : Table) : (candidatesOf t).length = t.entries.length := by
  rw [candidatesOf, List.length_map]

/-- The detail of a candidate shows what its entry means, and nothing else. -/
theorem detail_ofEntry_iff {category : Category} {e : Entry} :
    (Candidate.ofEntry category e).detail = "Python: " ++ (name ++ suffixOf category) ↔
      e.meaning = name := by
  show "Python: " ++ (e.meaning ++ suffixOf category) = _ ↔ _
  rw [String.append_right_inj, String.append_left_inj]

/-- Where no token is repeated, a table has a candidate for exactly the names it means, and the
label of that candidate reads as the name. -/
theorem exists_candidate_iff (h : t.tokens.Nodup) :
    (∃ c ∈ candidatesOf t, c.detail = "Python: " ++ (name ++ suffixOf t.category) ∧
      c.insertText = c.label ++ suffixOf t.category ∧ t.meaning? c.label = some name) ↔
    t.Means name := by
  constructor
  · rintro ⟨c, hc, hdetail, -, -⟩
    obtain ⟨e, he, rfl⟩ := List.mem_map.mp hc
    exact ⟨e, he, detail_ofEntry_iff.mp hdetail⟩
  · rintro ⟨e, he, hname⟩
    refine ⟨.ofEntry t.category e, List.mem_map_of_mem he, detail_ofEntry_iff.mpr hname, rfl, ?_⟩
    rw [← hname]
    exact Table.meaning?_token h he

theorem offersName_iff (hsuffix : suffixOf t.category = "") (h : t.tokens.Nodup) :
    OffersName t name ↔ t.Means name := by
  have hcandidate : _ ↔ t.Means name := exists_candidate_iff h
  simp only [hsuffix, String.append_empty] at hcandidate
  exact hcandidate

theorem offersCall_iff (hcategory : t.category = .builtinFunction) (h : t.tokens.Nodup) :
    OffersCall t name ↔ t.Means name := by
  have hcandidate : _ ↔ t.Means name := exists_candidate_iff h
  simp only [hcategory, suffixOf, callSuffix, ← String.append_assoc] at hcandidate
  exact hcandidate

/-! ## Candidates of three tables -/

variable {keywords functions types : Table}

/-- Completions are complete and unambiguous exactly if the tables cover the vocabulary. -/
theorem complete_iff_covers (hkeywords : keywords.category = .keyword)
    (hfunctions : functions.category = .builtinFunction) (htypes : types.category = .builtinType) :
    Complete keywords functions types ↔ Covers keywords functions types := by
  have hplain : suffixOf keywords.category = "" := by rw [hkeywords, suffixOf]
  have hplain' : suffixOf types.category = "" := by rw [htypes, suffixOf]
  -- either side asks for distinct tokens, under which a table offers what it means
  have hkeyword (hdistinct : keywords.tokens.Nodup) (k : String) :
      OffersName keywords k ↔ keywords.Means k := offersName_iff hplain hdistinct
  have hbuiltin (hdistinct : functions.tokens.Nodup) (hdistinct' : types.tokens.Nodup)
      (name : String) : OffersCall functions name ∨ OffersName types name ↔
        functions.Means name ∨ types.Means name :=
    or_congr (offersCall_iff hfunctions hdistinct) (offersName_iff hplain' hdistinct')
  constructor
  · intro h
    have hdistinct := h.labels
    simp only [labels_candidatesOf] at hdistinct
    obtain ⟨hk, hf, ht⟩ : keywords.tokens.Nodup ∧ functions.tokens.Nodup ∧ types.tokens.Nodup := by
      simpa using hdistinct
    refine ⟨hdistinct, ?_, ?_, ?_⟩
    · intro k hin
      exact (hkeyword hk k).mp (h.keywordsOffered k hin)
    · intro name hin
      exact (hbuiltin hf ht name).mp (h.functionsOffered name hin)
    · intro name hin
      exact (hbuiltin hf ht name).mp (h.typesOffered name hin)
  · intro h
    obtain ⟨hk, hf, ht⟩ : keywords.tokens.Nodup ∧ functions.tokens.Nodup ∧ types.tokens.Nodup := by
      simpa using h.distinct
    refine ⟨?_, ?_, ?_, ?_⟩
    · simp only [labels_candidatesOf]
      exact h.distinct
    · intro k hin
      exact (hkeyword hk k).mpr (h.spelled k hin)
    · intro name hin
      exact (hbuiltin hf ht name).mpr (h.functionsSpelled name hin)
    · intro name hin
      exact (hbuiltin hf ht name).mpr (h.typesSpelled name hin)

/-- **Tables that pass the check have complete and unambiguous completions, and no others do.**
Within a table no two labels are the same; every keyword is offered as it is; every built-in is
offered as a call by the table of functions or as it is by the table of types; and each label reads
as the name that is offered. There is one completion for each entry. -/
theorem complete_iff_checkTables (keywords functions types : Table)
    (hkeywords : keywords.category = .keyword) (hfunctions : functions.category = .builtinFunction)
    (htypes : types.category = .builtinType) :
    ((checkTables keywords functions types).result = .ok () ↔
      Complete keywords functions types) ∧
    ([keywords, functions, types].flatMap candidatesOf).length =
      keywords.entries.length + functions.entries.length + types.entries.length := by
  constructor
  · rw [checkTables_ok_iff, complete_iff_covers hkeywords hfunctions htypes]
  · simp only [List.flatMap_cons, List.flatMap_nil, List.append_nil, List.length_append,
      length_candidatesOf, Nat.add_assoc]

/-- The dialect's own completions are complete. -/
theorem complete_iff_checkTables_shipped :
    (checkTables Dialect.keywords Dialect.builtinFunctions Dialect.builtinTypes).result = .ok () ∧
      Complete Dialect.keywords Dialect.builtinFunctions Dialect.builtinTypes ∧
      candidates.length = 110 := by
  obtain ⟨hcomplete, hlength⟩ := complete_iff_checkTables Dialect.keywords
    Dialect.builtinFunctions Dialect.builtinTypes rfl rfl rfl
  have hpass :
      (checkTables Dialect.keywords Dialect.builtinFunctions Dialect.builtinTypes).result = .ok () :=
    checkTables_ok_iff.mpr (Dialect.code_validate_eq_zero_iff.mp Dialect.code_validate_shipped)
  exact ⟨hpass, hcomplete.mp hpass, hlength⟩

end KatakanaLsp.Completion
