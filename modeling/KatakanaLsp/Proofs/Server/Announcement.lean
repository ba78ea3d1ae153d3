import KatakanaLsp.Proofs.Decode.Record
import KatakanaLsp.Proofs.Server.Handling

/-!
# How completion is announced

Completion is announced either in the answer to `initialize` or by a registration, once
`initialized` has come, and a client says in its capabilities which it wants. What it says is four
levels deep, and every level may be absent or null:

> `asksLater_iff`: the service registers later exactly if the flag is given as true.

The answer and the registration are made by two handlers far apart, which agree through a flag that
only `initialize` sets (`registersLater_handle`). So it holds after any events, and

> `completion_announced_once`: whatever a client does after its greeting, completion is announced in
> one of the two ways and never in the other, with the same options.
-/

namespace KatakanaLsp

namespace Protocol

open Decode (ReadFrom)

/-! ## What the client asks for -/

/-- The flag for the registration of completion, as the parameters of `initialize` give it. -/
def completionFlag? (v : Json) : Option Json :=
  (((InitializeParams.shape.fields.given? "capabilities" v).bind
      (Capabilities.client.fields.given? "textDocument")).bind
    (Capabilities.textDocument.fields.given? "completion")).bind
  (Capabilities.completion.fields.given? Capabilities.dynamicRegistration)

/-- The client asks to hear of completion by a registration. -/
def AsksLater (v : Json) : Prop := completionFlag? v = some (.bool true)

/-- **The service learns what the client asks for.** -/
theorem asksLater_iff {v : Json} (hv : v.canonical = v) {p : InitializeParams}
    (h : InitializeParams.decode v = .ok p) :
    p.dynamicCompletion.getD false = true ↔ AsksLater v := by
  unfold InitializeParams.decode at h
  cases hj : InitializeParams.shape.decode v with
  | error e => simp [hj, Except.map] at h
  | ok j =>
    have hwhole : ReadFrom .required InitializeParams.shape (some v) (some j) := by
      refine ⟨fun w hw => Option.some.inj hw ▸ hv, ?_⟩
      have hread : InitializeParams.shape.read false v = .ok j := hj
      simp [Decode.ReadAs, Decode.readGiven, hread, Except.map]
    -- one level after the other
    have hcapabilities := hwhole.field "capabilities" (by decide +kernel) rfl
    have hdocument := hcapabilities.field "textDocument" (by decide +kernel) rfl
    have hcompletion := hdocument.field "completion" (by decide +kernel) rfl
    have hflag := hcompletion.field Capabilities.dynamicRegistration (by decide +kernel) rfl
    have hp : (valueAt? ["capabilities", "textDocument", "completion",
        Capabilities.dynamicRegistration] j).bind Json.asBool? = p.dynamicCompletion := by
      rw [hj] at h
      exact congrArg InitializeParams.dynamicCompletion (Except.ok.inj h)
    have hpath : valueAt? ["capabilities", "textDocument", "completion",
        Capabilities.dynamicRegistration] j =
        ((((some j).bind (·.field? "capabilities")).bind (·.field? "textDocument")).bind
          (·.field? "completion")).bind (·.field? Capabilities.dynamicRegistration) := by
      simp [valueAt?, Option.bind_assoc]
    rw [← hp, hpath]
    exact hflag.flag

end Protocol

namespace Server

open Protocol (InitializeParams AsksLater)

/-! ## What is announced -/

/-- The options of completion with a provider, as the fields of an object. -/
def announcedOptions (provider : Completion.Provider) : List (String × Json) :=
  [("resolveProvider", .bool false),
    ("triggerCharacters", .array (provider.triggerCharacters.map .string))]

/-- The documents of a configuration, as the selector of a registration. -/
def announcedSelector (config : Config) : Json :=
  .array [.object [("language", .string config.languageId),
    ("pattern", .string config.filePattern)]]

/-- The request that registers completion. -/
def announcingRequest (config : Config) (provider : Completion.Provider) : String × Json :=
  ("client/registerCapability",
    .object [("registrations", .array [.object
      [("id", .string "japy-completion"), ("method", .string "textDocument/completion"),
        ("registerOptions", .object
          (("documentSelector", announcedSelector config) :: announcedOptions provider))]])])

/-- Whether an event is the client's greeting. -/
def Event.Greets : Event → Prop
  | .greeted _ => True
  | _ => False

/-- Whether an event is the client's `initialized`. -/
def Event.isInitialized : Event → Bool
  | .initialized => true
  | _ => false

namespace Service

variable (config : Config) (provider : Completion.Provider)

/-! ## One event -/

/-- The registration is requested as announced. -/
theorem request_registration (s : Service) :
    request s.registration = announcingRequest s.config s.provider := rfl

/-- Only the greeting decides whether completion is registered later. -/
theorem registersLater_handle (s : Service) {e : Event} (h : ¬ e.Greets) :
    (s.handle e).1.registersLater = s.registersLater := by
  cases e with
  | greeted p => exact absurd trivial h
  | closed p =>
    simp only [handle, onClose]
    split <;> rfl
  | _ => rfl

/-- Only `initialized` has requests, and only if completion is registered later. -/
theorem requests_handle (s : Service) (e : Event) :
    (s.handle e).2.requests =
      if s.registersLater = true ∧ e.isInitialized = true then
        [announcingRequest s.config s.provider]
      else [] := by
  cases e with
  | initialized =>
    cases hlater : s.registersLater
    · simp [handle, onInitialized, hlater]
    · simp [handle, onInitialized, hlater, Event.isInitialized, request_registration]
  | _ => simp [handle, Event.isInitialized]

/-! ## Many events -/

/-- **Without a greeting, the requests of a run are those that its first state makes.** -/
theorem requests_run (s : Service) {events : List Event} (h : ∀ e ∈ events, ¬ e.Greets) :
    (s.run events).2.map (·.requests) = events.map fun e =>
      if s.registersLater = true ∧ e.isInitialized = true then
        [announcingRequest s.config s.provider]
      else [] := by
  induction events generalizing s with
  | nil => rfl
  | cons e events ih =>
    obtain ⟨he, hevents⟩ := List.forall_mem_cons.mp h
    have hothers := ih (s.handle e).1 hevents
    rw [s.registersLater_handle he, (s.handle_settings e).1, (s.handle_settings e).2] at hothers
    rw [List.map_cons, ← hothers, ← requests_handle]
    rfl

/-- What the service knows and answers once it has been greeted. -/
theorem onInitialize_spec (s : Service) (p : InitializeParams) :
    (s.onInitialize p).1.registersLater = p.dynamicCompletion.getD false ∧
      (s.onInitialize p).2.1.completionProvider =
        if p.dynamicCompletion.getD false = true then none else some s.completionOptions := by
  unfold onInitialize
  dsimp only
  split
  next hlater => exact ⟨hlater.symm, rfl⟩
  next hnow => exact ⟨(Bool.eq_false_iff.mpr hnow).symm, rfl⟩

/-- Before its greeting a service makes no requests, and behind it those that the greeting asks
for. -/
theorem requests_greeted (p : InitializeParams) {before later : List Event}
    (hbefore : ∀ e ∈ before, ¬ e.Greets) (hlater : ∀ e ∈ later, ¬ e.Greets) :
    ((withProvider config provider).run (before ++ .greeted p :: later)).2.map (·.requests) =
      before.map (fun _ => []) ++ [] :: later.map fun e =>
        if p.dynamicCompletion.getD false = true ∧ e.isInitialized = true then
          [announcingRequest config provider]
        else [] := by
  let start := withProvider config provider
  let greeted := (start.run before).1.handle (.greeted p)
  obtain ⟨hconfig, hprovider⟩ := (start.run before).1.handle_settings (.greeted p)
  rw [(run_settings start before).1] at hconfig
  rw [(run_settings start before).2] at hprovider
  have hfirst := requests_run start hbefore
  have hthen := requests_run greeted.1 hlater
  have hlearned : greeted.1.registersLater = p.dynamicCompletion.getD false :=
    ((start.run before).1.onInitialize_spec p).1
  rw [hlearned, hconfig, hprovider] at hthen
  have hsplit : (start.run (before ++ .greeted p :: later)).2.map (·.requests) =
      (start.run before).2.map (·.requests) ++
        greeted.2.requests :: (greeted.1.run later).2.map (·.requests) := by
    rw [run_append, List.map_append]
    rfl
  -- a service starts without having been asked to register
  rw [hsplit, hfirst, hthen]
  rfl

/-- The answer has capabilities, and the completion provider is offered in them. -/
theorem offered_in_answer (r : InitializeResult) :
    ∃ capabilities, r.json.field? "capabilities" = some capabilities ∧
      capabilities.field? "completionProvider" =
        r.completionProvider.map fun o => .object o.fields := by
  obtain ⟨_ | options⟩ := r
  · exact ⟨_, rfl, rfl⟩
  · exact ⟨_, rfl, rfl⟩

/-- **Completion is announced once, and in one of two ways.** A client that asks for it gets no
completion provider in the answer to its greeting, and each time it is initialized one request to
register completion for the configured documents; any other client gets a completion provider, and
never a request. The options are the same, with the trigger characters of the provider, which for
the provider of the dialect are those of the configuration. Whatever a client answers to a request
is reported and changes nothing. -/
theorem completion_announced_once {v : Json} {p : InitializeParams}
    (hp : InitializeParams.decode v.canonical = .ok p) {before later : List Event}
    (hbefore : ∀ e ∈ before, ¬ e.Greets) (hlater : ∀ e ∈ later, ¬ e.Greets) :
    let start := withProvider config provider
    let greeted := (start.run before).1.handle (.greeted p)
    let after := (greeted.1.run later).1
    let requests := (start.run (before ++ .greeted p :: later)).2.map (·.requests)
    (∃ capabilities, greeted.2.result.bind (·.field? "capabilities") = some capabilities ∧
      (AsksLater v.canonical →
        capabilities.field? "completionProvider" = none ∧
          requests = before.map (fun _ => []) ++ [] :: later.map fun e =>
            if e.isInitialized = true then [announcingRequest config provider] else []) ∧
      (¬ AsksLater v.canonical →
        capabilities.field? "completionProvider" = some (.object (announcedOptions provider)) ∧
          ∀ r ∈ requests, r = [])) ∧
    (∀ outcome, after.handle (.registered outcome) = (after, ⟨none, [],
      [match outcome with
      | .ok () => ⟨.info, .backend,
          "Registered completion provider for '" ++ config.languageId ++ "' documents"⟩
      | .error cause => ⟨.warn, .backend,
          "Client rejected completion registration: " ++ cause⟩]⟩)) ∧
    ofConfig config = withProvider config (.dialect config.triggerCharacters) ∧
      announcedOptions (.dialect config.triggerCharacters) =
        [("resolveProvider", .bool false), ("triggerCharacters", .strings config.triggerCharacters)]
      := by
  intro start greeted after requests
  have hasks := Protocol.asksLater_iff v.canonical_canonical hp
  have hrequests := requests_greeted config provider p hbefore hlater
  obtain ⟨capabilities, hcapabilities, hoffered⟩ :=
    offered_in_answer ((start.run before).1.onInitialize p).2.1
  have hoptions : (start.run before).1.completionOptions.fields = announcedOptions provider := by
    rw [completionOptions, (run_settings start before).2]
    rfl
  rw [((start.run before).1.onInitialize_spec p).2] at hoffered
  refine ⟨⟨capabilities, hcapabilities, fun hlate => ?_, fun hnow => ?_⟩, ?_, rfl, rfl⟩
  · have hflag := hasks.mpr hlate
    rw [if_pos hflag] at hoffered
    exact ⟨hoffered, by simpa [hflag] using hrequests⟩
  · have hflag : ¬ p.dynamicCompletion.getD false = true := fun hflag => hnow (hasks.mp hflag)
    rw [if_neg hflag, Option.map_some, hoptions] at hoffered
    refine ⟨hoffered, fun r hr => ?_⟩
    rw [show requests = _ from hrequests] at hr
    rcases List.mem_append.mp hr with hfront | hbehind
    · obtain ⟨e, -, rfl⟩ := List.mem_map.mp hfront
      rfl
    · rcases List.mem_cons.mp hbehind with rfl | hthen
      · rfl
      · obtain ⟨e, -, rfl⟩ := List.mem_map.mp hthen
        exact if_neg fun h => hflag h.1
  · have hafter : after.config = config := by
      rw [(run_settings greeted.1 later).1, ((start.run before).1.handle_settings _).1,
        (run_settings start before).1]
      rfl
    rintro (cause | ⟨⟩)
    · rfl
    · rw [← hafter]
      rfl

/-- A greeting that asks for a registration, with nothing else in it. -/
def keenGreeting : Json :=
  .object [("capabilities", .object [("textDocument", .object [("completion",
    .object [("dynamicRegistration", .bool true)])])])]

/-- A client that is initialized once more after it has refused the registration. -/
def keenClient : List Event := [.initialized, .registered (.error "Refused"), .initialized]

theorem completion_announced_once_keen :
    InitializeParams.decode keenGreeting.canonical = .ok ⟨none, some true⟩ ∧
      AsksLater keenGreeting.canonical ∧ (∀ e ∈ [Event.initialized], ¬ e.Greets) ∧
      (∀ e ∈ keenClient, ¬ e.Greets) ∧
      ((ofConfig .default).run
          ([.initialized] ++ .greeted ⟨none, some true⟩ :: keenClient)).2.map (·.requests) =
        [[], [], [announcingRequest .default (.dialect Config.defaultTriggerCharacters)], [],
          [announcingRequest .default (.dialect Config.defaultTriggerCharacters)]] := by
  have hp : InitializeParams.decode keenGreeting.canonical = .ok ⟨none, some true⟩ := rfl
  have hasks : AsksLater keenGreeting.canonical := rfl
  have hbefore : ∀ e ∈ [Event.initialized], ¬ e.Greets :=
    List.forall_mem_singleton.mpr fun h => h
  have hlater : ∀ e ∈ keenClient, ¬ e.Greets := by
    simp [keenClient, Event.Greets]
  obtain ⟨⟨capabilities, -, hlate, -⟩, -⟩ := completion_announced_once .default
    (.dialect Config.defaultTriggerCharacters) hp hbefore hlater
  exact ⟨hp, hasks, hbefore, hlater, (hlate hasks).2⟩

end Service

end Server

end KatakanaLsp
