import KatakanaLsp.Server.Service

/-!
# What the service is asked, and what it does

The service is asked for one thing after another: an `Event` is a call of one of its handlers, or
the outcome of a registration, which the handler of `initialized` waits for while others run. A
`Reaction` is what comes of it: the result of a request, requests of the server's own, and records
for the log. `Service.run` is the service over any sequence of events; what is said of it is said of
every order in which handlers can be called.
-/

namespace KatakanaLsp.Server

open Protocol (InitializeParams OpenParams CloseParams)
open Logging (Record)

/-- A call of a handler, or the outcome of a registration. The client greets the service with
`initialize`. -/
inductive Event where
  | greeted (p : InitializeParams)
  | initialized
  | registered (outcome : Except String Unit)
  | opened (p : OpenParams)
  | closed (p : CloseParams)
  | completion (c : Completion.Context)
  | shutdown

/-- What comes of an event. -/
structure Reaction where
  result : Option Json
  requests : List (String × Json)
  records : List Record

namespace Service

/-- The request to register completion. -/
def request (r : Registration) : String × Json := (registerMethod, registrationParams [r])

/-- The service after an event, and its reaction. -/
def handle (s : Service) : Event → Service × Reaction
  | .greeted p =>
    ((s.onInitialize p).1,
      ⟨some (s.onInitialize p).2.1.json, [], (s.onInitialize p).2.2⟩)
  | .initialized => (s, ⟨none, s.onInitialized.1.toList.map request, s.onInitialized.2⟩)
  | .registered outcome => (s, ⟨none, [], [s.onRegistered outcome]⟩)
  | .opened p => ((s.onOpen p).1, ⟨none, [], (s.onOpen p).2⟩)
  | .closed p => ((s.onClose p).1, ⟨none, [], (s.onClose p).2⟩)
  | .completion c =>
    (s, ⟨some (.array ((s.onCompletion c).1.map (·.json))), [], (s.onCompletion c).2⟩)
  | .shutdown => (s, ⟨some .null, [], s.onShutdown⟩)

/-- The service after events, one after another, and its reactions. -/
def run (s : Service) : List Event → Service × List Reaction
  | [] => (s, [])
  | e :: events =>
    let first := s.handle e
    let others := run first.1 events
    (others.1, first.2 :: others.2)

theorem run_append (s : Service) (first second : List Event) :
    s.run (first ++ second) =
      (((s.run first).1.run second).1, (s.run first).2 ++ ((s.run first).1.run second).2) := by
  induction first generalizing s with
  | nil => rfl
  | cons e events ih =>
    show ((((s.handle e).1.run (events ++ second)).1,
      (s.handle e).2 :: ((s.handle e).1.run (events ++ second)).2) : Service × List Reaction) = _
    rw [ih]
    rfl

theorem run_concat (s : Service) (events : List Event) (e : Event) :
    (s.run (events ++ [e])).1 = ((s.run events).1.handle e).1 := by
  rw [run_append]
  rfl

/-- What every event preserves is so after any events. -/
theorem run_preserves {P : Service → Prop} (hstep : ∀ s e, P s → P (s.handle e).1) {s : Service}
    (h : P s) (events : List Event) : P (s.run events).1 := by
  induction events generalizing s with
  | nil => exact h
  | cons e events ih => exact ih (hstep s e h)

/-- No event changes the configuration or the provider. -/
theorem handle_settings (s : Service) (e : Event) :
    (s.handle e).1.config = s.config ∧ (s.handle e).1.provider = s.provider := by
  cases e with
  | greeted p =>
    simp only [handle, onInitialize]
    split <;> exact ⟨rfl, rfl⟩
  | closed p =>
    simp only [handle, onClose]
    split <;> exact ⟨rfl, rfl⟩
  | _ => exact ⟨rfl, rfl⟩

theorem run_settings (s : Service) (events : List Event) :
    (s.run events).1.config = s.config ∧ (s.run events).1.provider = s.provider := by
  refine run_preserves (P := fun t => t.config = s.config ∧ t.provider = s.provider) ?_
    ⟨rfl, rfl⟩ events
  rintro t e ⟨hconfig, hprovider⟩
  exact ⟨(t.handle_settings e).1.trans hconfig, (t.handle_settings e).2.trans hprovider⟩

/-- All requests in reactions, in order. -/
def requestsOf (reactions : List Reaction) : List (String × Json) := reactions.flatMap (·.requests)

/-- All records in reactions, in order. -/
def recordsOf (reactions : List Reaction) : List Record := reactions.flatMap (·.records)

theorem requestsOf_append (first second : List Reaction) :
    requestsOf (first ++ second) = requestsOf first ++ requestsOf second := List.flatMap_append

theorem recordsOf_append (first second : List Reaction) :
    recordsOf (first ++ second) = recordsOf first ++ recordsOf second := List.flatMap_append

end Service

end KatakanaLsp.Server
