import KatakanaLsp.Proofs.Completion.Coverage
import KatakanaLsp.Proofs.Server.Handling

/-!
# What an item says of its candidate

A provider may offer any candidates: any texts, any category, with or without a follow-up. Each
becomes an item, and each item a JSON object, and nothing is lost on the way: the kind of an item
gives its category back, its command the follow-up, and everything else is copied.

> `Candidate.item_injective`, `Item.json_injective`: an item comes from one candidate, and an object
> from one item.

For a candidate that was made from an entry, the item says even which entry that was. The label is
the token; the detail is the meaning behind a fixed text and in front of a suffix, and what suffix
that is follows from the category (`ofEntry_inj`). So no texts in an entry, brackets or Markdown
among them, make it look like another.

> `completion_faithful`: a completion request is answered with an item for each candidate, in order,
> and the answer determines the candidates.
-/

namespace KatakanaLsp.Completion

open Dialect (Category Entry)

/-! ## Items -/

attribute [ext] Candidate

theorem itemKind_injective : Function.Injective itemKind := by
  intro a b
  cases a <;> cases b <;> decide

theorem FollowUp.command_injective : Function.Injective FollowUp.command := by
  intro a b _
  cases a
  cases b
  rfl

/-- An item comes from one candidate. -/
theorem Candidate.item_injective : Function.Injective Candidate.item := by
  intro c d h
  have hkind : itemKind c.category = itemKind d.category := congrArg Item.kind h
  have hcommand : c.followUp.map FollowUp.command = d.followUp.map FollowUp.command :=
    congrArg Item.command h
  have hcategory := itemKind_injective hkind
  have hfollowUp := Option.map_injective FollowUp.command_injective hcommand
  exact Candidate.ext (congrArg Item.label h) hcategory (congrArg Item.insertText h)
    (congrArg Item.detail h) (congrArg Item.documentation h) hfollowUp

theorem Command.json_injective : Function.Injective Command.json := by
  intro a b h
  cases a
  cases b
  simp only [json, Json.object.injEq, List.cons.injEq, Prod.mk.injEq, Json.string.injEq,
    true_and, and_true] at h
  obtain ⟨rfl, rfl⟩ := h
  rfl

/-- An object comes from one item. A command stands in front of the other fields, which are the same
in number in all objects. -/
theorem Item.json_injective : Function.Injective Item.json := by
  intro i j h
  obtain ⟨label, kind, detail, documentation, insertText, command⟩ := i
  obtain ⟨label', kind', detail', documentation', insertText', command'⟩ := j
  obtain ⟨hcommand, hfields⟩ := List.append_inj' (Json.object.inj h) rfl
  simp only [Json.nat, List.cons.injEq, Prod.mk.injEq, Json.string.injEq, Json.object.injEq,
    Json.number.injEq, JsonNumber.int.injEq, Int.natCast_inj, true_and, and_true] at hfields
  obtain ⟨rfl, rfl, rfl, rfl, rfl⟩ := hfields
  have hsame : command = command' := by
    cases command with
    | none =>
      cases command' with
      | none => rfl
      | some _ => cases hcommand
    | some a =>
      cases command' with
      | none => cases hcommand
      | some b =>
        simp only [List.cons.injEq, Prod.mk.injEq, true_and, and_true] at hcommand
        rw [Command.json_injective hcommand]
  rw [hsame]

/-- An item has the command to move the cursor exactly if its candidate asks for that, whatever the
category of the candidate. -/
theorem command_item_iff {c : Candidate} :
    c.item.command = some ⟨"Move cursor left", "cursorLeft"⟩ ↔ c.followUp = some .cursorLeft := by
  show c.followUp.map FollowUp.command = (some FollowUp.cursorLeft).map FollowUp.command ↔ _
  exact (Option.map_injective FollowUp.command_injective).eq_iff

theorem command_item_eq_none_iff {c : Candidate} :
    c.item.command = none ↔ c.followUp = none := Option.map_eq_none_iff

/-! ## Entries -/

variable {category category' : Category} {e e' : Entry}

/-- A candidate that was made from an entry was made from that entry only, under one category. -/
theorem ofEntry_inj :
    Candidate.ofEntry category e = Candidate.ofEntry category' e' ↔
      category = category' ∧ e = e' := by
  constructor
  · intro h
    have hcategory : category = category' := congrArg Candidate.category h
    have htoken : e.token = e'.token := congrArg Candidate.label h
    have hdetail := congrArg Candidate.detail h
    subst hcategory
    have hmeaning : e.meaning = e'.meaning := detail_ofEntry_iff.mp hdetail
    exact ⟨rfl, Entry.ext htoken hmeaning⟩
  · rintro ⟨rfl, rfl⟩
    rfl

/-- The inserted text alone does not say so much: a keyword may end in brackets. -/
example : (Candidate.ofEntry .keyword ⟨"プリント()", "print"⟩).insertText =
    (Candidate.ofEntry .builtinFunction ⟨"プリント", "print"⟩).insertText := by decide

/-- Only functions have a suffix, and it is the pair of brackets. -/
theorem suffixOf_eq_iff :
    (suffixOf category = "()" ↔ category = .builtinFunction) ∧
      (suffixOf category = "" ↔ category ≠ .builtinFunction) := by
  cases category <;> decide

/-- What is inserted is the label and the suffix. -/
theorem insertText_ofEntry (category : Category) (e : Entry) :
    (Candidate.ofEntry category e).item.insertText =
      (Candidate.ofEntry category e).item.label ++ suffixOf category := rfl

theorem insertText_ofEntry_iff (suffix : String) :
    (Candidate.ofEntry category e).item.insertText =
      (Candidate.ofEntry category e).item.label ++ suffix ↔ suffixOf category = suffix := by
  rw [insertText_ofEntry, String.append_right_inj]

theorem followUp_ofEntry_iff (category : Category) (e : Entry) :
    ((Candidate.ofEntry category e).followUp = some .cursorLeft ↔ category = .builtinFunction) ∧
      ((Candidate.ofEntry category e).followUp = none ↔ category ≠ .builtinFunction) := by
  cases category <;> simp [Candidate.ofEntry]

/-- A text stands somewhere in another. -/
def Contains (text part : String) : Prop := ∃ before after, text = before ++ part ++ after

theorem Contains.of_append {text part more : String} (h : Contains text (part ++ more)) :
    Contains text part := by
  obtain ⟨before, after, rfl⟩ := h
  exact ⟨before, more ++ after, by simp only [String.append_assoc]⟩

theorem noteOf_contains (category : Category) (token meaning : String) :
    Contains (noteOf category token meaning) token ∧
      Contains (noteOf category token meaning) meaning := by
  constructor
  · refine ⟨"**" ++ headingOf category ++ ":** `",
      "`\n\n**対応するPython:** `" ++ meaning ++ "`\n\n---\n\n*" ++ remarkOf category ++ "*", ?_⟩
    simp only [noteOf, String.append_assoc]
  · refine ⟨"**" ++ headingOf category ++ ":** `" ++ token ++ "`\n\n**対応するPython:** `",
      "`\n\n---\n\n*" ++ remarkOf category ++ "*", ?_⟩
    simp only [noteOf, String.append_assoc]

/-- The note on an entry holds its token and its meaning. -/
theorem documentation_ofEntry (category : Category) (e : Entry) :
    Contains (Candidate.ofEntry category e).item.documentation e.token ∧
      Contains (Candidate.ofEntry category e).item.documentation e.meaning := by
  obtain ⟨htoken, hmeaning⟩ :=
    noteOf_contains category (e.token ++ suffixOf category) (e.meaning ++ suffixOf category)
  exact ⟨htoken.of_append, hmeaning.of_append⟩

end KatakanaLsp.Completion

namespace KatakanaLsp.Server.Service

open Completion
open Dialect (Category Entry)

/-! ## Answers -/

variable {s s' : Service} {c c' : Context}

/-- Equal lists of items come from equal lists of candidates. -/
theorem items_eq_iff :
    (s.onCompletion c).1 = (s'.onCompletion c').1 ↔
      s.provider.candidatesAt c = s'.provider.candidatesAt c' :=
  (List.map_injective_iff.mpr Candidate.item_injective).eq_iff

/-- Equal answers hold equal lists of items. -/
theorem result_eq_iff :
    (s.handle (.completion c)).2.result = (s'.handle (.completion c')).2.result ↔
      (s.onCompletion c).1 = (s'.onCompletion c').1 := by
  show some (Json.array ((s.onCompletion c).1.map (·.json))) =
    some (Json.array ((s'.onCompletion c').1.map (·.json))) ↔ _
  rw [Option.some.injEq, Json.array.injEq]
  exact (List.map_injective_iff.mpr Item.json_injective).eq_iff

/-- **A completion request is answered with the candidates, and nothing of them is lost.** The
answer holds an item for each candidate that the provider offers, in order, and two answers are
equal, as items or as JSON, exactly if the candidates are. A candidate's item has the command to
move the cursor exactly if the candidate asks for that. The item of an entry belongs to that entry
and its category alone; it inserts a call, and has the command, exactly if it is a function, and
inserts its bare label, without a command, in all other cases; and its documentation contains the
token and the meaning. -/
theorem completion_faithful :
    (∀ (s : Service) (c : Context),
      (s.handle (.completion c)).2.result =
        some (.array ((s.onCompletion c).1.map (·.json))) ∧
      (s.onCompletion c).1.length = (s.provider.candidatesAt c).length ∧
      ∀ i : Nat, (s.onCompletion c).1[i]? = (s.provider.candidatesAt c)[i]?.map (·.item)) ∧
    (∀ (s s' : Service) (c c' : Context),
      ((s.onCompletion c).1 = (s'.onCompletion c').1 ↔
        s.provider.candidatesAt c = s'.provider.candidatesAt c') ∧
      ((s.handle (.completion c)).2.result = (s'.handle (.completion c')).2.result ↔
        s.provider.candidatesAt c = s'.provider.candidatesAt c')) ∧
    (∀ c : Candidate,
      (c.item.command = some ⟨"Move cursor left", "cursorLeft"⟩ ↔
        c.followUp = some .cursorLeft) ∧
      (c.item.command = none ↔ c.followUp = none)) ∧
    (∀ (category category' : Category) (e e' : Entry),
      (Candidate.ofEntry category e).item = (Candidate.ofEntry category' e').item ↔
        category = category' ∧ e = e') ∧
    ∀ (category : Category) (e : Entry), let i := (Candidate.ofEntry category e).item
      i.label = e.token ∧
      (i.insertText = i.label ++ "()" ↔ category = .builtinFunction) ∧
      (i.command = some ⟨"Move cursor left", "cursorLeft"⟩ ↔ category = .builtinFunction) ∧
      (i.insertText = i.label ↔ category ≠ .builtinFunction) ∧
      (i.command = none ↔ category ≠ .builtinFunction) ∧
      Contains i.documentation e.token ∧ Contains i.documentation e.meaning := by
  refine ⟨?_, ?_, ?_, ?_, ?_⟩
  · intro s c
    exact ⟨rfl, List.length_map _, fun i => List.getElem?_map⟩
  · intro s s' c c'
    exact ⟨items_eq_iff, result_eq_iff.trans items_eq_iff⟩
  · intro c
    exact ⟨command_item_iff, command_item_eq_none_iff⟩
  · intro category category' e e'
    rw [Candidate.item_injective.eq_iff]
    exact ofEntry_inj
  · intro category e i
    have hbare : i.insertText = i.label ↔ i.insertText = i.label ++ "" := by
      rw [String.append_empty]
    obtain ⟨hmoves, hstays⟩ := followUp_ofEntry_iff category e
    refine ⟨rfl, ?_, ?_, ?_, ?_, documentation_ofEntry category e⟩
    · exact (insertText_ofEntry_iff "()").trans suffixOf_eq_iff.1
    · exact command_item_iff.trans hmoves
    · exact hbare.trans ((insertText_ofEntry_iff "").trans suffixOf_eq_iff.2)
    · exact command_item_eq_none_iff.trans hstays

end KatakanaLsp.Server.Service
