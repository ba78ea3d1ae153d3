import KatakanaLsp.Proofs.Server.Documents

/-!
# The languages of open documents

A client opens a document under a language, and the service remarks on a language other than the
configured one. That is all it does about it: the document is noted like any other. So the list of
open documents holds only documents of the configured language as long as the client opens no
others.

> `Service.run_relabel`: had documents been opened under any other languages, the service would be
> the same.

> `Service.onlyConfigured_iff`: every open document was last opened under the configured language
> exactly if each opening under another one has been followed by an event about the same document.

The last event about a document decides both whether it is open and under which language
(`openAfter_iff`).
-/

namespace KatakanaLsp.Server

open Protocol (OpenParams)

/-! ## Languages by history -/

/-- The language under which an event opens a document, if it opens that document. -/
def Event.opensAs? (uri : Url) : Event → Option String
  | .opened p => if p.uri = uri then some p.languageId else none
  | _ => none

/-- The language under which a document was opened most recently. -/
def lastLanguage? (events : List Event) (uri : Url) : Option String :=
  (events.filterMap (Event.opensAs? uri)).getLast?

/-- An event about a document opens or closes it. -/
def Event.IsAbout (uri : Url) (e : Event) : Prop := e.opens? uri ≠ none

/-- An event that is not about a document opens it under no language. -/
theorem opensAs?_of_not_isAbout {uri : Url} {e : Event} (h : ¬ e.IsAbout uri) :
    e.opensAs? uri = none := by
  cases e with
  | opened p =>
    by_cases huri : p.uri = uri
    · simp [Event.IsAbout, Event.opens?, huri] at h
    · simp only [Event.opensAs?, if_neg huri]
  | _ => rfl

/-- An event that opens a document is the opening of it. -/
theorem exists_of_opens? {uri : Url} {e : Event} (h : e.opens? uri = some true) :
    ∃ p, e = .opened p ∧ p.uri = uri := by
  cases e with
  | opened p =>
    refine ⟨p, rfl, ?_⟩
    by_contra huri
    simp [Event.opens?, huri] at h
  | closed p =>
    simp only [Event.opens?] at h
    split at h <;> cases h
  | _ => cases h

/-- **A document is open exactly if it was opened and no event since has been about it.** -/
theorem openAfter_iff {events : List Event} {uri : Url} :
    OpenAfter events uri ↔ ∃ before p after, events = before ++ .opened p :: after ∧
      p.uri = uri ∧ ∀ e ∈ after, ¬ e.IsAbout uri := by
  rw [OpenAfter, List.getLast?_filterMap, List.findSome?_eq_some_iff]
  constructor
  · rintro ⟨after, e, before, hsplit, hopens, hlater⟩
    obtain ⟨p, rfl, huri⟩ := exists_of_opens? hopens
    refine ⟨before.reverse, p, after.reverse, ?_, huri, fun e he => ?_⟩
    · rw [← List.reverse_reverse events, hsplit]
      simp
    · exact not_not.mpr (hlater e (List.mem_reverse.mp he))
  · rintro ⟨before, p, after, rfl, rfl, hlater⟩
    refine ⟨after.reverse, .opened p, before.reverse, by simp, by simp [Event.opens?], ?_⟩
    intro e he
    exact not_not.mp (hlater e (List.mem_reverse.mp he))

/-- The language of a document is that of its last opening, whatever happens to other documents. -/
theorem lastLanguage?_split (before after : List Event) (p : OpenParams)
    (hlater : ∀ e ∈ after, ¬ e.IsAbout p.uri) :
    lastLanguage? (before ++ .opened p :: after) p.uri = some p.languageId := by
  have hnone : after.filterMap (Event.opensAs? p.uri) = [] :=
    List.filterMap_eq_nil_iff.mpr fun e he => opensAs?_of_not_isAbout (hlater e he)
  have hopens : (Event.opened p).opensAs? p.uri = some p.languageId := if_pos rfl
  rw [lastLanguage?, List.filterMap_append, List.filterMap_cons_some hopens, hnone,
    List.getLast?_concat]

/-! ## Languages do not matter -/

/-- The event with the language of an opening replaced. -/
def Event.relabel (language : OpenParams → String) : Event → Event
  | .opened p => .opened { p with languageId := language p }
  | e => e

namespace Service

theorem handle_relabel (s : Service) (language : OpenParams → String) (e : Event) :
    (s.handle (e.relabel language)).1 = (s.handle e).1 := by
  cases e <;> rfl

/-- **Under any other languages the service would be the same.** -/
theorem run_relabel (s : Service) (language : OpenParams → String) (events : List Event) :
    (s.run (events.map (Event.relabel language))).1 = (s.run events).1 := by
  induction events generalizing s with
  | nil => rfl
  | cons e events ih =>
    show ((s.handle (e.relabel language)).1.run (events.map (Event.relabel language))).1 =
      ((s.handle e).1.run events).1
    rw [handle_relabel, ih]

variable (config : Config) (provider : Completion.Provider)

/-- After some events, every open document was last opened under the configured language. -/
def OnlyConfigured (events : List Event) : Prop :=
  ∀ uri ∈ ((withProvider config provider).run events).1.openDocuments,
    lastLanguage? events uri = some config.languageId

/-- Each opening under another language has been followed by an event about the document. -/
def Superseded (events : List Event) : Prop :=
  ∀ before p after, events = before ++ .opened p :: after → p.languageId ≠ config.languageId →
    ∃ e ∈ after, e.IsAbout p.uri

/-- **Only documents of the configured language are open exactly if every opening under another one
has been followed by an event about the document.** -/
theorem onlyConfigured_iff (events : List Event) :
    OnlyConfigured config provider events ↔ Superseded config events := by
  have hmem := (mem_openDocuments_run config provider events).1
  constructor
  · rintro honly before p after rfl hforeign
    by_contra hnone
    have hlater : ∀ e ∈ after, ¬ e.IsAbout p.uri := fun e he habout => hnone ⟨e, he, habout⟩
    have hopen : OpenAfter (before ++ .opened p :: after) p.uri :=
      openAfter_iff.mpr ⟨before, p, after, rfl, rfl, hlater⟩
    have hlanguage := honly p.uri ((hmem p.uri).mpr hopen)
    rw [lastLanguage?_split before after p hlater] at hlanguage
    exact hforeign (Option.some.inj hlanguage)
  · intro hsuperseded uri hin
    obtain ⟨before, p, after, rfl, rfl, hlater⟩ := openAfter_iff.mp ((hmem uri).mp hin)
    rw [lastLanguage?_split before after p hlater]
    by_contra hforeign
    obtain ⟨e, he, habout⟩ :=
      hsuperseded before p after rfl fun hsame => hforeign (congrArg some hsame)
    exact hlater e he habout

/-- **Documents of every language are tracked as open.** What the service knows does not depend on
the languages under which documents are opened. Whatever has happened before, a document that is
opened is among the open ones, with the language it was opened under. So only documents of the
configured language are open exactly if each opening under another one has been followed by an event
about the same document. -/
theorem openDocuments_any_language (events : List Event) :
    (∀ language, ((withProvider config provider).run (events.map (Event.relabel language))).1 =
      ((withProvider config provider).run events).1) ∧
    (∀ p, p.uri ∈ ((withProvider config provider).run (events ++ [.opened p])).1.openDocuments ∧
      lastLanguage? (events ++ [.opened p]) p.uri = some p.languageId) ∧
    (OnlyConfigured config provider events ↔ Superseded config events) := by
  refine ⟨fun language => run_relabel _ language events, fun p => ⟨?_, ?_⟩,
    onlyConfigured_iff config provider events⟩
  · rw [(mem_openDocuments_run config provider _).1, openAfter_iff]
    exact ⟨events, p, [], rfl, rfl, nofun⟩
  · exact lastLanguage?_split events [] p nofun

/-- A document of another language that is opened and left open. -/
def foreignOpening : OpenParams := ⟨⟨"file:///tmp/b.py"⟩, "python", 1⟩

theorem not_onlyConfigured_foreign :
    ¬ OnlyConfigured .default (.dialect Config.defaultTriggerCharacters)
      [.opened foreignOpening] := by
  intro honly
  have hopen : foreignOpening.uri ∈ ((withProvider .default
      (.dialect Config.defaultTriggerCharacters)).run [.opened foreignOpening]).1.openDocuments :=
    List.mem_singleton_self _
  exact absurd (honly foreignOpening.uri hopen) (by decide)

end Service

end KatakanaLsp.Server
