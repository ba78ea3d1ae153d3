import KatakanaLsp.Proofs.Server.Enacting

/-!
# What completion offers

The dialect's provider looks at a request only to report that it ignores it, and no event puts
another provider in its place. So a completion request is answered with the vocabulary, whatever has
happened before and whatever it asks:

> `vocabularyItems`: an item for each keyword, then for each built-in function, then for each
> built-in type, in the order of the tables.

The items are said here entry by entry, with the category of each table. That the provider's list of
candidates comes to them is `items_candidates`; that a service which offers them goes on offering them
is a step (`OffersVocabulary.handle`), and so it is after any events:

> `completion_independent`: any two requests that can be read, in any two histories under any two
> configurations, are answered with the same items, and change nothing.
-/

namespace KatakanaLsp.Completion

open Dialect (Category Entry Table)

/-- The items for some entries of a category, one for each. -/
def itemsOf (category : Category) (entries : List Entry) : List Item :=
  entries.map fun e => (Candidate.ofEntry category e).item

/-- The items for the whole dialect. -/
def vocabularyItems : List Item :=
  itemsOf .keyword Dialect.keywords.entries ++ itemsOf .builtinFunction Dialect.builtinFunctions.entries
    ++ itemsOf .builtinType Dialect.builtinTypes.entries

/-- The items for the candidates of a table are those for its entries. -/
theorem items_candidatesOf (t : Table) :
    (candidatesOf t).map (·.item) = itemsOf t.category t.entries := by
  rw [candidatesOf, List.map_map, itemsOf]
  rfl

/-- **The dialect's candidates are offered entry by entry.** -/
theorem items_candidates : candidates.map (·.item) = vocabularyItems := by
  rw [candidates, List.map_flatMap, vocabularyItems]
  simp only [items_candidatesOf]
  show itemsOf .keyword _ ++ (itemsOf .builtinFunction _ ++ (itemsOf .builtinType _ ++ [])) = _
  rw [List.append_nil, List.append_assoc]

end KatakanaLsp.Completion

namespace KatakanaLsp.Server

open Completion (Context vocabularyItems items_candidates)
open Protocol (Call Message RequestId completionContext)

/-- What a completion request is answered with. -/
def vocabularyAnswer : Json := .array (vocabularyItems.map (·.json))

namespace Service

/-- A service offers the vocabulary on every request, whatever the request says. -/
def OffersVocabulary (s : Service) : Prop := ∀ c, (s.onCompletion c).1 = vocabularyItems

theorem offersVocabulary_ofConfig (config : Config) : (ofConfig config).OffersVocabulary := by
  intro c
  exact items_candidates

/-- An event changes nothing about what is offered, since it leaves the provider alone. -/
theorem OffersVocabulary.handle {s : Service} (h : s.OffersVocabulary) (e : Event) :
    (s.handle e).1.OffersVocabulary := by
  intro c
  have hprovider : (s.handle e).1.provider = s.provider := (s.handle_settings e).2
  show ((s.handle e).1.provider.candidatesAt c).map (·.item) = vocabularyItems
  rw [hprovider]
  exact h c

theorem offersVocabulary_run (config : Config) (events : List Event) :
    ((ofConfig config).run events).1.OffersVocabulary :=
  run_preserves (fun _ e h => h.handle e) (offersVocabulary_ofConfig config) events

/-- A completion request is answered with the vocabulary, and the service is then as it was. -/
theorem OffersVocabulary.handle_completion {s : Service} (h : s.OffersVocabulary) (c : Context) :
    (s.handle (.completion c)).1 = s ∧
      (s.handle (.completion c)).2.result = some vocabularyAnswer := by
  refine ⟨rfl, ?_⟩
  show some (Json.array ((s.onCompletion c).1.map (·.json))) = some vocabularyAnswer
  rw [h c, vocabularyAnswer]

end Service

/-- A server whose service offers the vocabulary sends it to whoever asks in a way that can be
read, and is then as it was. -/
theorem State.runMethod_completion {s : State} (h : s.service.OffersVocabulary) {call : Call}
    {id : RequestId} {v : Json} {c : Context} (hid : call.id = some id)
    (hparams : call.params = some v) (hc : completionContext v = .ok c) :
    (s.runMethod .completion call).1 = s ∧
      (s.runMethod .completion call).2.messages = [Message.resultMessage id vocabularyAnswer] := by
  refine ⟨rfl, ?_⟩
  have hread : paramsOf call completionContext = .ok c := by
    rw [paramsOf, hparams]
    show (completionContext v).mapError _ = .ok c
    rw [hc]
    rfl
  show (s.runCompletion call).messages = _
  unfold runCompletion
  rw [hid, hread]
  dsimp only
  rw [h c, vocabularyAnswer]

/-- In a session, whatever has arrived so far, a completion request that can be read is answered
with the vocabulary. -/
theorem Session.runMethod_completion (config : Config) (logging : Bool)
    (steps : List (Bytes × Bool)) {call : Call} {id : RequestId} {v : Json} {c : Context}
    (hid : call.id = some id) (hparams : call.params = some v) (hc : completionContext v = .ok c) :
    let server := ((Session.start (.ofConfig config) logging).run steps).1.server
    (server.runMethod .completion call).1 = server ∧
      (server.runMethod .completion call).2.messages =
        [Message.resultMessage id vocabularyAnswer] := by
  intro server
  obtain ⟨events, hbrings⟩ := (Session.start (.ofConfig config) logging).run_brings steps
  have hservice : server.service = ((Service.ofConfig config).run events).1 := hbrings.service
  have hoffers : server.service.OffersVocabulary := by
    rw [hservice]
    exact Service.offersVocabulary_run config events
  exact State.runMethod_completion hoffers hid hparams hc

namespace Service

/-- **Completion answers depend neither on the session nor on the request.** Take any two
configurations and any two histories of events, the outcomes of registrations among them, and any
two requests that can be read. Both are answered with the same array: the items of all entries of
the dialect, keywords first, then functions, then types. Neither changes anything about the
service. And so it is for servers of these services: what they send is this array, under the
identifier of the request, and they are left as they were. -/
theorem completion_independent (config config' : Config) (events events' : List Event)
    {v v' : Json} {c c' : Context} (hc : completionContext v = .ok c)
    (hc' : completionContext v' = .ok c') :
    let s := ((ofConfig config).run events).1
    let s' := ((ofConfig config').run events').1
    (s.handle (.completion c)).2.result = (s'.handle (.completion c')).2.result ∧
    (s.handle (.completion c)).2.result = some (.array (vocabularyItems.map (·.json))) ∧
    (s.handle (.completion c)).1 = s ∧ (s'.handle (.completion c')).1 = s' ∧
    ∀ (server server' : State) (call call' : Call) (id id' : RequestId),
      server.service = s → call.id = some id → call.params = some v →
      server'.service = s' → call'.id = some id' → call'.params = some v' →
        (server.runMethod .completion call).1 = server ∧
        (server'.runMethod .completion call').1 = server' ∧
        (server.runMethod .completion call).2.messages =
          [Message.resultMessage id (.array (vocabularyItems.map (·.json)))] ∧
        (server'.runMethod .completion call').2.messages =
          [Message.resultMessage id' (.array (vocabularyItems.map (·.json)))] := by
  intro s s'
  have hs : s.OffersVocabulary := offersVocabulary_run config events
  have hs' : s'.OffersVocabulary := offersVocabulary_run config' events'
  obtain ⟨hkept, hresult⟩ := hs.handle_completion c
  obtain ⟨hkept', hresult'⟩ := hs'.handle_completion c'
  refine ⟨hresult.trans hresult'.symm, hresult, hkept, hkept', ?_⟩
  intro server server' call call' id id' hserver hid hparams hserver' hid' hparams'
  rw [← hserver] at hs
  rw [← hserver'] at hs'
  obtain ⟨hstate, hsent⟩ := State.runMethod_completion hs hid hparams hc
  obtain ⟨hstate', hsent'⟩ := State.runMethod_completion hs' hid' hparams' hc'
  exact ⟨hstate, hstate', hsent, hsent'⟩

/-- A request behind the end of a document that is not open, made by a trigger character. -/
def strayRequest : Json :=
  .object [("context", .object [("triggerCharacter", .string "\t"), ("triggerKind", .int 2)]),
    ("position", .object [("character", .int 80), ("line", .int 500)]),
    ("textDocument", .object [("uri", .string "file:///tmp/never-opened.japy")])]

def strayContext : Context :=
  ⟨⟨"file:///tmp/never-opened.japy"⟩, ⟨500, 80⟩, some 2, some "\t"⟩

/-- A request that says no more than it has to. -/
def plainRequest : Json :=
  .object [("position", .object [("character", .int 0), ("line", .int 0)]),
    ("textDocument", .object [("uri", .string "untitled:hello")])]

/-- A client that refuses the registration, opens a document and shuts the server down. -/
def wornHistory : List Event :=
  [.initialized, .greeted ⟨some "Editor", some true⟩, .initialized, .registered (.error "Refused"),
    .opened ⟨⟨"untitled:hello"⟩, "python", 3⟩, .completion strayContext, .shutdown]

theorem completion_independent_worn :
    let worn := ((ofConfig .default).run wornHistory).1
    let fresh := ofConfig ⟨"katakana", "*.kana", []⟩
    let sent (s : Service) (v : Json) :=
      ((State.start s).runMethod .completion ⟨completionMethod, some v, some .null⟩).2.messages
    completionContext strayRequest = .ok strayContext ∧
      completionContext plainRequest = .ok (.at ⟨"untitled:hello"⟩ ⟨0, 0⟩) ∧
      worn.openDocuments = [⟨"untitled:hello"⟩] ∧ worn.registersLater = true ∧
      sent worn strayRequest = sent fresh plainRequest := by
  intro worn fresh sent
  have hstray : completionContext strayRequest = .ok strayContext := rfl
  have hplain : completionContext plainRequest = .ok (.at ⟨"untitled:hello"⟩ ⟨0, 0⟩) := rfl
  obtain ⟨-, -, -, -, hservers⟩ :=
    completion_independent .default ⟨"katakana", "*.kana", []⟩ wornHistory [] hstray hplain
  obtain ⟨-, -, hworn, hfresh⟩ := hservers (.start worn) (.start fresh)
    ⟨completionMethod, some strayRequest, some .null⟩
    ⟨completionMethod, some plainRequest, some .null⟩ .null .null rfl rfl rfl rfl rfl rfl
  exact ⟨hstray, hplain, rfl, rfl, hworn.trans hfresh.symm⟩

end Service

end KatakanaLsp.Server
