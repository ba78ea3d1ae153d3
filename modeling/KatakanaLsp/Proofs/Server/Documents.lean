import KatakanaLsp.Proofs.Server.Enacting
import Mathlib.Data.Set.Card

/-!
# Which documents are open

The service keeps a list of the documents that are open, and adds to it and takes from it as clients
open and close them. A client may open a document twice, close one that is not open, or close one
twice. What the list should hold at any point depends on the history alone:

> `OpenAfter`: after some events a document is open if the last of them that is about it opened it.

One event turns the set of open documents into what the history says next (`mem_handle`), and the
list holds each only once (`nodup_handle`). So by induction on the events, list and history agree,
and the length of the list is the number of open documents:

> `openDocuments_follow`: after any events the list is the set of documents that are open, and what
> is reported of the next event is true of them.
-/

namespace KatakanaLsp.Server

open Protocol (OpenParams CloseParams)

/-! ## Open by history -/

/-- Whether an event opens or closes a document, if it is about that document. -/
def Event.opens? (uri : Url) : Event → Option Bool
  | .opened p => if p.uri = uri then some true else none
  | .closed p => if p.uri = uri then some false else none
  | _ => none

/-- After some events a document is open: the last of them that is about it opened it. -/
def OpenAfter (events : List Event) (uri : Url) : Prop :=
  (events.filterMap (Event.opens? uri)).getLast? = some true

instance (events : List Event) (uri : Url) : Decidable (OpenAfter events uri) :=
  inferInstanceAs (Decidable (_ = _))

theorem not_openAfter_nil (uri : Url) : ¬ OpenAfter [] uri := nofun

/-- The last event decides if it is about the document; otherwise those before it do. -/
theorem openAfter_concat (events : List Event) (e : Event) (uri : Url) :
    OpenAfter (events ++ [e]) uri ↔
      match e.opens? uri with
      | some opens => opens = true
      | none => OpenAfter events uri := by
  rw [OpenAfter, List.filterMap_append]
  cases hopens : e.opens? uri with
  | none => rw [List.filterMap_cons_none hopens, List.filterMap_nil, List.append_nil, OpenAfter]
  | some opens =>
    rw [List.filterMap_cons_some hopens, List.filterMap_nil, List.getLast?_concat,
      Option.some_inj]

namespace Service

/-! ## One event -/

/-- The open documents after one was closed. -/
theorem openDocuments_onClose (s : Service) (p : CloseParams) :
    (s.onClose p).1.openDocuments = s.openDocuments.filter (· ≠ p.uri) := by
  unfold onClose
  split
  · rfl
  next hnot =>
    refine (List.filter_eq_self.mpr fun uri huri => decide_eq_true ?_).symm
    rintro rfl
    exact hnot huri

theorem openDocuments_onInitialize (s : Service) (p : Protocol.InitializeParams) :
    (s.onInitialize p).1.openDocuments = s.openDocuments := by
  simp only [onInitialize]
  split <;> rfl

/-- **Only opening and closing change the open documents.** -/
theorem openDocuments_handle (s : Service) (e : Event) :
    (s.handle e).1.openDocuments =
      match e with
      | .opened p =>
        if p.uri ∈ s.openDocuments then s.openDocuments else s.openDocuments ++ [p.uri]
      | .closed p => s.openDocuments.filter (· ≠ p.uri)
      | _ => s.openDocuments := by
  cases e with
  | greeted p => exact s.openDocuments_onInitialize p
  | closed p => exact s.openDocuments_onClose p
  | _ => rfl

/-- An event decides about the document it is about, and about no other. -/
theorem mem_handle (s : Service) (e : Event) (uri : Url) :
    uri ∈ (s.handle e).1.openDocuments ↔
      match e.opens? uri with
      | some opens => opens = true
      | none => uri ∈ s.openDocuments := by
  rw [openDocuments_handle]
  cases e with
  | opened p =>
    by_cases huri : p.uri = uri
    · simp only [Event.opens?, if_pos huri]
      split <;> simp_all
    · simp only [Event.opens?, if_neg huri]
      have hne : uri ≠ p.uri := Ne.symm huri
      split <;> simp [hne]
  | closed p =>
    by_cases huri : p.uri = uri
    · simp [Event.opens?, huri]
    · have hne : uri ≠ p.uri := Ne.symm huri
      simp [Event.opens?, huri, hne]
  | _ => exact Iff.rfl

/-- A document stands in the list only once. -/
theorem nodup_handle {s : Service} (h : s.openDocuments.Nodup) (e : Event) :
    (s.handle e).1.openDocuments.Nodup := by
  rw [openDocuments_handle]
  cases e with
  | opened p =>
    show (if p.uri ∈ s.openDocuments then s.openDocuments else s.openDocuments ++ [p.uri]).Nodup
    split
    · exact h
    next hnot =>
      refine List.nodup_append.mpr ⟨h, List.nodup_singleton _, fun uri huri other hother => ?_⟩
      rw [List.mem_singleton.mp hother]
      rintro rfl
      exact hnot huri
  | closed p => exact h.filter _
  | _ => exact h

/-! ## Many events -/

variable (config : Config) (provider : Completion.Provider)

/-- The list of open documents is the set that the history makes, each document once. -/
theorem mem_openDocuments_run (events : List Event) :
    (∀ uri, uri ∈ ((withProvider config provider).run events).1.openDocuments ↔
        OpenAfter events uri) ∧
      ((withProvider config provider).run events).1.openDocuments.Nodup := by
  -- by induction from the end, since the last event decides
  induction events using List.reverseRecOn with
  | nil =>
    refine ⟨fun uri => ?_, List.nodup_nil⟩
    exact iff_of_false List.not_mem_nil (not_openAfter_nil uri)
  | append_singleton events e ih =>
    obtain ⟨hmem, hnodup⟩ := ih
    rw [run_concat]
    refine ⟨fun uri => ?_, nodup_handle hnodup e⟩
    rw [mem_handle, openAfter_concat]
    cases e.opens? uri with
    | none => exact hmem uri
    | some opens => exact Iff.rfl

/-- The number of documents in the list is that of the open documents. -/
theorem length_openDocuments_run (events : List Event) :
    ((withProvider config provider).run events).1.openDocuments.length =
      {uri | OpenAfter events uri}.ncard := by
  obtain ⟨hmem, hnodup⟩ := mem_openDocuments_run config provider events
  have hset : {uri | OpenAfter events uri} =
      (((withProvider config provider).run events).1.openDocuments.toFinset : Set Url) := by
    ext uri
    rw [Set.mem_ofPred_eq, Finset.mem_coe, List.mem_toFinset, hmem]
  rw [hset, Set.ncard_coe_finset, List.toFinset_card_of_nodup hnodup]

/-- Opening a document that is open changes nothing. -/
theorem openAfter_reopened {events : List Event} {p : OpenParams} (h : OpenAfter events p.uri)
    (uri : Url) : OpenAfter (events ++ [.opened p]) uri ↔ OpenAfter events uri := by
  rw [openAfter_concat]
  by_cases huri : p.uri = uri
  · simp only [Event.opens?, if_pos huri, true_iff]
    exact huri ▸ h
  · simp only [Event.opens?, if_neg huri]

/-- **The open documents follow the history.** After any events, the list of open documents is the
set of those whose last event opened them, each once. Of the next event it is reported what is true
of the history: how many documents are open once one has been opened, where one that was open
already does not count again, and whether a document that is closed was open. Nothing else changes
the list. -/
theorem openDocuments_follow (before : List Event) (e : Event) :
    let s := ((withProvider config provider).run before).1
    let next := s.handle e
    (∀ uri, uri ∈ s.openDocuments ↔ OpenAfter before uri) ∧ s.openDocuments.Nodup ∧
      match e with
      | .opened p =>
        next.2.records =
            (if p.languageId = config.languageId then []
            else [handled .debug ("Opened " ++ p.uri.text ++ " with language '" ++ p.languageId
              ++ "', expected '" ++ config.languageId ++ "'")]) ++
            [handled .info ("Opened document: URI=" ++ p.uri.text ++ ", version="
              ++ Decimal.intText p.version ++ " ("
              ++ Decimal.text {uri | OpenAfter (before ++ [e]) uri}.ncard ++ " open)")] ∧
          (OpenAfter before p.uri →
            {uri | OpenAfter (before ++ [e]) uri} = {uri | OpenAfter before uri})
      | .closed p =>
        next.2.records =
          if OpenAfter before p.uri then [handled .info ("Closed document: " ++ p.uri.text)]
          else [handled .debug ("Closed document was not tracked: " ++ p.uri.text)]
      | _ => next.1.openDocuments = s.openDocuments := by
  intro s next
  obtain ⟨hmem, hnodup⟩ := mem_openDocuments_run config provider before
  refine ⟨hmem, hnodup, ?_⟩
  have hconfig : s.config = config := (run_settings (withProvider config provider) before).1
  cases e with
  | opened p =>
    refine ⟨?_, fun hopen => Set.ext (openAfter_reopened hopen)⟩
    have hcount : next.1.openDocuments.length =
        {uri | OpenAfter (before ++ [.opened p]) uri}.ncard := by
      rw [← length_openDocuments_run config provider, run_concat]
    have hrecords : next.2.records = (s.onOpen p).2 := rfl
    rw [hrecords, onOpen, hconfig, ← hcount]
    rfl
  | closed p =>
    by_cases hopen : OpenAfter before p.uri
    · have hin : p.uri ∈ s.openDocuments := (hmem p.uri).mpr hopen
      simp only [next, handle, onClose, if_pos hin, if_pos hopen]
    · have hnot : p.uri ∉ s.openDocuments := fun hin => hopen ((hmem p.uri).mp hin)
      simp only [next, handle, onClose, if_neg hnot, if_neg hopen]
  | greeted p => exact s.openDocuments_onInitialize p
  | _ => rfl

end Service

/-- In a session, the open documents are those that the history of what its service is asked has
opened last. -/
theorem Session.mem_openDocuments (config : Config) (provider : Completion.Provider)
    (logging : Bool) (steps : List (Bytes × Bool)) :
    let start := Session.start (.withProvider config provider) logging
    ∃ events, State.Brings (.withProvider config provider) events
        (start.run steps).1.server.service ((start.run steps).2.flatMap (·.records))
        ((start.run steps).2.flatMap (·.messages)) ∧
      ∀ uri, uri ∈ (start.run steps).1.server.service.openDocuments ↔ OpenAfter events uri := by
  intro start
  obtain ⟨events, hbrings⟩ := start.run_brings steps
  refine ⟨events, hbrings, fun uri => ?_⟩
  rw [hbrings.service]
  exact (Service.mem_openDocuments_run config provider events).1 uri

end KatakanaLsp.Server
