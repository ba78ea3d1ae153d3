import KatakanaLsp.Proofs.Dialect.Verdict

/-!
# Reading and spelling

A table is looked up in two directions: a token is read as the name it means, and a name is spelled
by a token. Both lookups take the first entry that fits, so either can miss an entry that stands
behind another. What they find is an entry in any table (`mem_of_meaning?`, `mem_of_token?`); that
every entry is found takes keys that are not repeated:

> `meaning?_eq_some_iff`, `token?_eq_some_iff`: where the tokens are distinct, reading finds exactly
> the entries, and where the meanings are, spelling does.

The check of a table asks for distinct tokens only. That is enough for what is spelled to read back,
and for two names never to share a spelling; a name may still have several spellings, of which one is
used. With distinct meanings the lookups are inverse to each other.

> `checkDistinct_iff_reads`: the check accepts exactly the tables that list no entry twice and whose
> tokens all read as their entries say.

> `checkDistinct_inverts`: what the check accepts, what it rejects, and what the lookups of a table
> that it accepts have to do with each other.
-/

namespace KatakanaLsp.Dialect

namespace Table

variable {t : Table} {token name : String}

/-- The meanings of a table, in order. -/
def meanings (t : Table) : List String := t.entries.map (·.meaning)

/-! ## Either lookup finds entries -/

theorem mem_of_meaning? (h : t.meaning? token = some name) : ⟨token, name⟩ ∈ t.entries := by
  obtain ⟨e, he, rfl, rfl⟩ := exists_of_find?_key h
  exact he

theorem mem_of_token? (h : t.token? name = some token) : ⟨token, name⟩ ∈ t.entries := by
  obtain ⟨e, he, rfl, rfl⟩ := exists_of_token? h
  exact he

/-- Where no token is repeated, reading finds every entry. -/
theorem meaning?_eq_some_iff (h : t.tokens.Nodup) :
    t.meaning? token = some name ↔ ⟨token, name⟩ ∈ t.entries := by
  constructor
  · exact mem_of_meaning?
  · intro he
    exact meaning?_token h he

/-- Where no meaning is repeated, spelling finds every entry. -/
theorem token?_eq_some_iff (h : t.meanings.Nodup) :
    t.token? name = some token ↔ ⟨token, name⟩ ∈ t.entries := by
  constructor
  · exact mem_of_token?
  · intro he
    have hmeanings : (t.entries.map (·.meaning)).Nodup := h
    have hfound : t.entries.find? (·.meaning == name) = some ⟨token, name⟩ :=
      find?_key hmeanings he
    rw [token?, hfound]
    rfl

/-! ## One after the other -/

/-- What is spelled reads back. -/
theorem meaning?_of_token? (h : t.tokens.Nodup) (hspelled : t.token? name = some token) :
    t.meaning? token = some name :=
  (meaning?_eq_some_iff h).mpr (mem_of_token? hspelled)

/-- Names with one spelling are one name, since the spelling reads as either. -/
theorem name_eq_of_token? {name' : String} (h : t.tokens.Nodup)
    (hspelled : t.token? name = some token) (hspelled' : t.token? name' = some token) :
    name = name' := by
  have hread := meaning?_of_token? h hspelled
  rw [meaning?_of_token? h hspelled'] at hread
  exact (Option.some.inj hread).symm

/-- With distinct meanings, what is read is spelled as it was. -/
theorem token?_of_meaning? (h : t.meanings.Nodup) (hread : t.meaning? token = some name) :
    t.token? name = some token :=
  (token?_eq_some_iff h).mpr (mem_of_meaning? hread)

/-- Every token of a table can be read, by the first entry with it if by no other. -/
theorem exists_meaning? (h : token ∈ t.tokens) : ∃ name, t.meaning? token = some name := by
  obtain ⟨e, he, rfl⟩ := List.mem_map.mp h
  cases hread : t.meaning? e.token with
  | some name => exact ⟨name, rfl⟩
  | none =>
    rw [meaning?, Option.map_eq_none_iff, List.find?_eq_none] at hread
    exact absurd (beq_self_eq_true e.token) (hread e he)

/-- Tokens are distinct exactly if no entry is listed twice and none is read as another. -/
theorem nodup_tokens_iff :
    t.tokens.Nodup ↔
      t.entries.Nodup ∧ ∀ e ∈ t.entries, t.meaning? e.token = some e.meaning := by
  constructor
  · intro h
    exact ⟨h.of_map _, fun e he => meaning?_token h he⟩
  · rintro ⟨hentries, hreads⟩
    refine hentries.map_on ?_
    intro e he f hf htoken
    have hmeaning := hreads e he
    rw [htoken, hreads f hf] at hmeaning
    exact Entry.ext htoken (Option.some.inj hmeaning).symm

end Table

/-! ## What the check makes of it -/

/-- The check fails with the first repetition wherever there is one. -/
theorem checkDistinct_of_not_nodup {t : Table} (h : ¬ t.tokens.Nodup) :
    ∃ token, FirstRepeat [] t.tokens token ∧
      checkDistinct t = .error (.duplicateToken t.category token) := by
  cases hcheck : checkDistinct t with
  | ok _ => exact absurd (checkDistinct_ok_iff.mp hcheck) h
  | error e =>
    obtain ⟨token, hfirst, rfl⟩ := checkDistinct_error_iff.mp hcheck
    exact ⟨token, hfirst, rfl⟩

/-- **The check accepts the tables that list no entry twice and read as they say.** -/
theorem checkDistinct_iff_reads {t : Table} :
    checkDistinct t = .ok () ↔
      t.entries.Nodup ∧ ∀ e ∈ t.entries, t.meaning? e.token = some e.meaning := by
  rw [checkDistinct_ok_iff, Table.nodup_tokens_iff]

/-- **Distinct tokens make the lookups inverse.** The check accepts exactly the tables whose tokens
are pairwise distinct, which are those that list no entry twice and whose tokens read as their
entries say. In such a table every entry says what its token means, what is spelled reads back, and
two names never have one spelling; and if the meanings are pairwise distinct too, every token of the
table is the spelling of what it means. A table with a token that does not read as its entry says is
rejected for its first repetition. -/
theorem checkDistinct_inverts (t : Table) :
    (checkDistinct t = .ok () ↔ t.tokens.Nodup) ∧
    (checkDistinct t = .ok () ↔
      t.entries.Nodup ∧ ∀ e ∈ t.entries, t.meaning? e.token = some e.meaning) ∧
    (checkDistinct t = .ok () →
      (∀ e ∈ t.entries, t.meaning? e.token = some e.meaning) ∧
      (∀ name token, t.token? name = some token → t.meaning? token = some name) ∧
      (∀ name name' token, t.token? name = some token → t.token? name' = some token →
        name = name') ∧
      (t.meanings.Nodup →
        ∀ token ∈ t.tokens, (t.meaning? token).bind t.token? = some token)) ∧
    (∀ e ∈ t.entries, t.meaning? e.token ≠ some e.meaning →
      ∃ token, FirstRepeat [] t.tokens token ∧
        checkDistinct t = .error (.duplicateToken t.category token)) := by
  refine ⟨checkDistinct_ok_iff, checkDistinct_iff_reads, ?_, ?_⟩
  · intro hcheck
    have htokens : t.tokens.Nodup := checkDistinct_ok_iff.mp hcheck
    refine ⟨?_, ?_, ?_, ?_⟩
    · intro e he
      exact Table.meaning?_token htokens he
    · intro name token hspelled
      exact Table.meaning?_of_token? htokens hspelled
    · intro name name' token hspelled hspelled'
      exact Table.name_eq_of_token? htokens hspelled hspelled'
    · intro hmeanings token hin
      obtain ⟨name, hread⟩ := Table.exists_meaning? hin
      rw [hread]
      exact Table.token?_of_meaning? hmeanings hread
  · intro e he hmisread
    apply checkDistinct_of_not_nodup
    intro htokens
    exact hmisread (Table.meaning?_token htokens he)

/-- A table in which one name has two spellings, the second of which is not used. -/
def respelled : Table := ⟨.builtinType, [⟨"リスト", "list"⟩, ⟨"レツ", "list"⟩, ⟨"セット", "set"⟩]⟩

/-- The table without the second spelling. -/
def spelledOnce : Table := ⟨.builtinType, [⟨"リスト", "list"⟩, ⟨"セット", "set"⟩]⟩

/-- A table whose second entry is hidden by its first. -/
def shadowed : Table := ⟨.keyword, [⟨"フォルス", "True"⟩, ⟨"フォルス", "False"⟩]⟩

/-- The first spelling of a name reads back and is used, the second only reads. A hidden entry is
found out. -/
theorem checkDistinct_inverts_respelled :
    checkDistinct respelled = .ok () ∧
      respelled.token? "list" = some "リスト" ∧ respelled.meaning? "リスト" = some "list" ∧
      respelled.meaning? "レツ" = some "list" ∧
    checkDistinct spelledOnce = .ok () ∧ spelledOnce.meanings.Nodup ∧
      (spelledOnce.meaning? "セット").bind spelledOnce.token? = some "セット" ∧
    shadowed.meaning? "フォルス" = some "True" ∧
      ∃ token, FirstRepeat [] shadowed.tokens token ∧
        checkDistinct shadowed = .error (.duplicateToken .keyword token) := by
  have hspelled : respelled.token? "list" = some "リスト" := by decide
  have hrespelled : checkDistinct respelled = .ok () := by
    apply (checkDistinct_inverts respelled).1.mpr
    decide
  have honce : checkDistinct spelledOnce = .ok () := by
    apply (checkDistinct_inverts spelledOnce).1.mpr
    decide
  have hmeanings : spelledOnce.meanings.Nodup := by decide
  have hshadowed : shadowed.meaning? "フォルス" = some "True" := by decide
  have hmisread : shadowed.meaning? "フォルス" ≠ some "False" := by decide
  obtain ⟨-, -, hlookups, -⟩ := checkDistinct_inverts respelled
  obtain ⟨-, -, hinverse, -⟩ := checkDistinct_inverts spelledOnce
  obtain ⟨-, -, -, hrejects⟩ := checkDistinct_inverts shadowed
  obtain ⟨hentries, hreadsBack, -, -⟩ := hlookups hrespelled
  obtain ⟨-, -, -, hspelledBack⟩ := hinverse honce
  exact ⟨hrespelled, hspelled, hreadsBack "list" "リスト" hspelled,
    hentries ⟨"レツ", "list"⟩ (by decide), honce, hmeanings,
    hspelledBack hmeanings "セット" (by decide), hshadowed,
    hrejects ⟨"フォルス", "False"⟩ (by decide) hmisread⟩

end KatakanaLsp.Dialect
