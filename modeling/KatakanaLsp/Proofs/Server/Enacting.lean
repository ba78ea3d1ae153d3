import KatakanaLsp.Proofs.Server.Handling
import KatakanaLsp.Server.Session

/-!
# What the server has its service do

The server reads, dispatches, runs tasks and settles replies. Behind all that it asks its service
for one thing after another, and nothing else:

> `State.Enacts`: a piece of work is, for the service, some events. The service ends up as after
> these events, the records are those of the reactions, and the requests are the reactions' requests
> if they can be sent.

Every method is such work (`enacts_runMethod`), and work adds up (`Enacts.append`). Reading has
nothing for the service (`quiet_read`), so that a turn is some events, and so is a session:

> `Session.run_brings`: whatever arrives, the service of a session is as after some events.

What is said of all runs of the service is thereby said of the server.
-/

namespace KatakanaLsp.Server

open Protocol (Message Call ResponseError Method)

/-! ## Requests among the messages of the server -/

/-- The method and the parameters of a message that is a request. -/
def request? (m : Json) : Option (String × Json) :=
  ((m.field? "method").bind Json.asString?).bind fun method =>
    (m.field? "params").map fun params => (method, params)

theorem request?_requestMessage (n : Nat) (method : String) (params : Json) :
    request? (Message.requestMessage n method params) = some (method, params) := rfl

/-- The requests in an output, in order. -/
def Output.requests (o : Output) : List (String × Json) := o.messages.filterMap request?

theorem Output.requests_append (a b : Output) : (a ++ b).requests = a.requests ++ b.requests :=
  List.filterMap_append

theorem Output.records_append (a b : Output) : (a ++ b).records = a.records ++ b.records := rfl

theorem Output.requests_failure (call : Call) (cause : ResponseError) :
    (failure call cause).requests = [] := by
  unfold failure
  split <;> rfl

theorem Output.records_failure (call : Call) (cause : ResponseError) :
    (failure call cause).records = [] := by
  unfold failure
  split <;> rfl

namespace State

/-! ## The server enacts what its service does -/

/-- Whether requests of the server reach the client: it has not exited, and somebody listens. -/
def Speaks (s : State) : Prop := s.reading = .going ∧ s.phase ≠ .exited

/-- A piece of work is, for the service, some events. Nothing of it changes what was read. -/
structure Enacts (s : State) (events : List Event) (r : State × Output) : Prop where
  service : r.1.service = (s.service.run events).1
  records : r.2.records = Service.recordsOf (s.service.run events).2
  requests : s.Speaks → r.2.requests = Service.requestsOf (s.service.run events).2
  silent : ¬ s.Speaks → r.2.requests = []
  input : r.1.input = s.input
  reading : r.1.reading = s.reading
  exited : r.1.phase = .exited ↔ s.phase = .exited

theorem Enacts.speaks {s : State} {events : List Event} {r : State × Output}
    (h : s.Enacts events r) : r.1.Speaks ↔ s.Speaks := by
  rw [Speaks, Speaks, h.reading, Ne, Ne, h.exited]

/-- Work and then more work. -/
theorem Enacts.append {s : State} {events more : List Event} {r r' : State × Output}
    (h : s.Enacts events r) (h' : r.1.Enacts more r') :
    s.Enacts (events ++ more) (r'.1, r.2 ++ r'.2) := by
  have hrun := Service.run_append s.service events more
  rw [← h.service] at hrun
  refine ⟨?_, ?_, ?_, ?_, h'.input.trans h.input, h'.reading.trans h.reading,
    h'.exited.trans h.exited⟩
  · rw [hrun]
    exact h'.service
  · rw [hrun, Output.records_append, h.records, h'.records, Service.recordsOf_append]
  · intro hs
    rw [hrun, Output.requests_append, h.requests hs, h'.requests (h.speaks.mpr hs),
      Service.requestsOf_append]
  · intro hs
    rw [Output.requests_append, h.silent hs, h'.silent (hs ∘ h.speaks.mp)]
    rfl

/-- Work that the service has no part in. -/
theorem Enacts.aside {s : State} {out : Output} (hrecords : out.records = [])
    (hrequests : out.requests = []) : s.Enacts [] (s, out) :=
  ⟨rfl, hrecords, fun _ => hrequests, fun _ => hrequests, rfl, rfl, Iff.rfl⟩

theorem enacts_failure (s : State) (call : Call) (cause : ResponseError) :
    s.Enacts [] (s, .failure call cause) :=
  .aside (Output.records_failure call cause) (Output.requests_failure call cause)

theorem enacts_none (s : State) : s.Enacts [] (s, .none) := .aside rfl rfl

/-- Work that is one event without requests, and leaves all but the service as it is. -/
theorem Enacts.single {s : State} {e : Event} {out : Output}
    (hrecords : out.records = (s.service.handle e).2.records) (hrequests : out.requests = [])
    (hnone : (s.service.handle e).2.requests = []) :
    s.Enacts [e] ({ s with service := (s.service.handle e).1 }, out) := by
  refine ⟨rfl, ?_, fun _ => ?_, fun _ => hrequests, rfl, rfl, Iff.rfl⟩
  · rw [hrecords]
    exact (List.append_nil _).symm
  · rw [hrequests]
    exact (congrArg (· ++ []) hnone).symm

/-! ## Methods -/

/-- The phase that `initialize` leaves does not matter to the service, as long as an exit stays. -/
theorem Enacts.settle {s : State} {events : List Event} {t : State} {out : Output}
    (h : s.Enacts events (t, out)) (phase : Phase) (hphase : phase ≠ .exited) :
    s.Enacts events ({ t with phase := if s.phase = .exited then .exited else phase }, out) := by
  refine ⟨h.service, h.records, h.requests, h.silent, h.input, h.reading, ?_⟩
  by_cases hs : s.phase = .exited
  · simp [hs]
  · simp [hs, hphase]

theorem enacts_runInitialize (s : State) (call : Call) :
    ∃ events, s.Enacts events (s.runInitialize call) := by
  cases hid : call.id with
  | none =>
    simp only [runInitialize, hid]
    exact ⟨[], s.enacts_none.settle .uninitialized (by decide)⟩
  | some id =>
    cases hparams : paramsOf call Protocol.InitializeParams.decode with
    | error e =>
      simp only [runInitialize, hid, hparams]
      exact ⟨[], (s.enacts_failure call e).settle .uninitialized (by decide)⟩
    | ok params =>
      have hsingle : s.Enacts [.greeted params]
          ({ s with service := (s.service.handle (.greeted params)).1 },
            ⟨[Message.resultMessage id (s.service.onInitialize params).2.1.json],
              (s.service.onInitialize params).2.2⟩) := .single rfl rfl rfl
      simp only [runInitialize, hid, hparams]
      exact ⟨[.greeted params], hsingle.settle .initialized (by decide)⟩

theorem enacts_runShutdown (s : State) (call : Call) :
    ∃ events, s.Enacts events (s, s.runShutdown call) := by
  unfold runShutdown
  split
  · exact ⟨[], s.enacts_none⟩
  · exact ⟨[], s.enacts_failure call _⟩
  · exact ⟨[.shutdown], .single rfl rfl rfl⟩

theorem enacts_runCompletion (s : State) (call : Call) :
    ∃ events, s.Enacts events (s, s.runCompletion call) := by
  unfold runCompletion
  split
  · exact ⟨[], s.enacts_none⟩
  · split
    next e _ => exact ⟨[], s.enacts_failure call e⟩
    next context _ => exact ⟨[.completion context], .single rfl rfl rfl⟩

/-- A registration is one request, or, after `exit`, a refusal that is reported at once. -/
theorem enacts_runInitialized (s : State) : ∃ events, s.Enacts events s.runInitialized := by
  rcases hinit : s.service.onInitialized with ⟨registration, records⟩
  cases registration with
  | none =>
    simp only [runInitialized, hinit]
    refine ⟨[.initialized], .single ?_ rfl ?_⟩
    · simp only [Service.handle, hinit, Output.report]
    · simp only [Service.handle, hinit, Option.toList_none, List.map_nil]
  | some r =>
    by_cases hexit : s.phase = .exited
    · refine ⟨[.initialized, .registered (.error ResponseError.notInitialized.text)], ?_⟩
      have hmute : ¬ s.Speaks := fun hs => hs.2 hexit
      simp only [runInitialized, hinit, register, if_pos hexit]
      refine ⟨rfl, ?_, fun hs => absurd hs hmute, fun _ => rfl, rfl, rfl, Iff.rfl⟩
      simp [Service.run, Service.handle, hinit, Service.recordsOf, Output.report,
        Output.records_append]
    · refine ⟨[.initialized], ?_⟩
      simp only [runInitialized, hinit, register, if_neg hexit]
      refine ⟨rfl, ?_, fun hs => ?_, fun hs => ?_, rfl, rfl, Iff.rfl⟩
      · simp [Service.run, Service.handle, hinit, Service.recordsOf, Output.report,
          Output.records_append]
      · rw [if_pos hs.1, Output.requests_append]
        simp [Service.run, Service.handle, hinit, Service.requestsOf, Service.request,
          Output.report, Output.requests, request?_requestMessage]
      · have hmute : s.reading ≠ .going := fun hgoing => hs ⟨hgoing, hexit⟩
        rw [if_neg hmute]
        rfl

theorem enacts_runNotification (s : State) (call : Call) {α : Type}
    {decode : Json → Except Decode.DecodeError α} {handle : α → State × Output}
    (h : ∀ params, ∃ events, s.Enacts events (handle params)) :
    ∃ events, s.Enacts events (s.runNotification call decode handle) := by
  unfold runNotification
  split
  · exact ⟨[], s.enacts_failure call _⟩
  · split
    · exact ⟨[], s.enacts_none⟩
    · exact h _

theorem enacts_runUnserved (s : State) (call : Call) (shape : Decode.Shape) :
    s.Enacts [] (s, runUnserved call shape) := by
  unfold runUnserved
  split
  · exact s.enacts_none
  · exact s.enacts_failure call _
  · exact s.enacts_failure call _

/-- **A method is some events for the service.** -/
theorem enacts_runMethod (s : State) (method : Method) (call : Call) :
    ∃ events, s.Enacts events (s.runMethod method call) := by
  cases method with
  | initializeServer => exact s.enacts_runInitialize call
  | shutdown => exact s.enacts_runShutdown call
  | completion => exact s.enacts_runCompletion call
  | initialized => exact s.enacts_runNotification call fun _ => s.enacts_runInitialized
  | didOpen =>
    exact s.enacts_runNotification call fun p => ⟨[.opened p], .single rfl rfl rfl⟩
  | didClose =>
    exact s.enacts_runNotification call fun p => ⟨[.closed p], .single rfl rfl rfl⟩
  | cancelRequest => exact s.enacts_runNotification call fun _ => ⟨[], s.enacts_none⟩
  | unservedRequest shape => exact ⟨[], s.enacts_runUnserved call shape⟩
  | unservedNotification =>
    show ∃ events, s.Enacts events
      (s, if call.id.isSome then Output.failure call .invalidRequest else .none)
    split
    · exact ⟨[], s.enacts_failure call _⟩
    · exact ⟨[], s.enacts_none⟩
  | exit => exact ⟨[], s.enacts_none⟩
  | unknown name => exact ⟨[], s.enacts_none⟩

/-! ## Turns -/

theorem enacts_runTask (s : State) (t : Task) : ∃ events, s.Enacts events (s.runTask t) := by
  cases t with
  | refuse id cause => exact ⟨[], .aside rfl rfl⟩
  | run method call givenUp =>
    show ∃ events, s.Enacts events
      (if givenUp then (s, Output.failure call .canceled) else s.runMethod method call)
    split
    · exact ⟨[], s.enacts_failure call _⟩
    · exact s.enacts_runMethod method call

/-- The tasks that are open do not matter to the service. -/
theorem Enacts.tasks {s t : State} {events : List Event} {out : Output}
    (h : s.Enacts events (t, out)) (tasks : List Task) :
    s.Enacts events ({ t with tasks := tasks }, out) :=
  ⟨h.service, h.records, h.requests, h.silent, h.input, h.reading, h.exited⟩

theorem enacts_runTasks (s : State) (ts : List Task) :
    ∃ events, s.Enacts events (s.runTasks ts) := by
  -- along the recursion, in which a task may give up those behind it
  induction s, ts using runTasks.induct with
  | case1 s =>
    rw [runTasks]
    exact ⟨[], s.enacts_none.tasks []⟩
  | case2 s t rest hfree s' out hrun last more hothers ih =>
    obtain ⟨events, hfirst⟩ := s.enacts_runTask t
    obtain ⟨others, hrest⟩ := ih
    rw [hrun] at hfirst
    rw [runTasks, if_pos hfree, hrun]
    exact ⟨events ++ others, hfirst.append hrest⟩
  | case3 s t rest hfull =>
    rw [runTasks, if_neg hfull]
    exact ⟨[], s.enacts_none.tasks _⟩

/-- Outcomes of registrations change nothing about the service and are reported. -/
theorem run_registered (s : Service) (outcomes : List (Except String Unit)) :
    (s.run (outcomes.map .registered)).1 = s ∧
      Service.recordsOf (s.run (outcomes.map .registered)).2 = outcomes.map s.onRegistered ∧
      Service.requestsOf (s.run (outcomes.map .registered)).2 = [] := by
  induction outcomes with
  | nil => exact ⟨rfl, rfl, rfl⟩
  | cons o outcomes ih =>
    obtain ⟨hservice, hrecords, hrequests⟩ := ih
    exact ⟨hservice, congrArg (s.onRegistered o :: ·) hrecords, hrequests⟩

/-- **Work is some events for the service.** -/
theorem enacts_work (s : State) : ∃ events, s.Enacts events s.work := by
  obtain ⟨hservice, hrecords, hrequests⟩ := run_registered s.service (s.replies.map registered)
  have hsettled : s.Enacts ((s.replies.map registered).map .registered)
      ({ s with replies := [] },
        .report (s.replies.map fun o => s.service.onRegistered (registered o))) := by
    refine ⟨hservice.symm, ?_, fun _ => hrequests.symm, fun _ => rfl, rfl, rfl, Iff.rfl⟩
    rw [hrecords, List.map_map]
    rfl
  obtain ⟨events, hrun⟩ := enacts_runTasks { s with replies := [] } s.tasks
  exact ⟨_, hsettled.append hrun⟩

/-! ## Reading -/

/-- Work that does nothing to the service and has neither records nor requests. -/
structure Quiet (s : State) (r : State × Output) : Prop where
  service : r.1.service = s.service
  records : r.2.records = []
  requests : r.2.requests = []

theorem quiet_none (s : State) : s.Quiet (s, .none) := ⟨rfl, rfl, rfl⟩

theorem Quiet.append {s : State} {r r' : State × Output} (h : s.Quiet r) (h' : r.1.Quiet r') :
    s.Quiet (r'.1, r.2 ++ r'.2) := by
  refine ⟨h'.service.trans h.service, ?_, ?_⟩
  · rw [Output.records_append, h.records, h'.records, List.append_nil]
  · rw [Output.requests_append, h.requests, h'.requests, List.append_nil]

theorem quiet_fail (s : State) (cause : ResponseError) : s.Quiet (s.fail cause) := ⟨rfl, rfl, rfl⟩

/-! ### What dispatching leaves alone -/

/-- A server with the service of another one, which reads as that one does and has left the same
unread. Dispatching a call looks at none of these. -/
def beside (s t : State) : State :=
  { s with service := t.service, reading := t.reading, input := t.input }

theorem refuse_beside (s t : State) (call : Call) (cause : ResponseError) :
    (s.beside t).refuse call cause = (s.refuse call cause).beside t := by
  unfold refuse
  split <;> rfl

theorem accept_beside (s t : State) (method : Method) (call : Call) :
    (s.beside t).accept method call = (s.accept method call).beside t := by
  have hrefuse := s.refuse_beside t call .invalidRequest
  unfold accept
  cases call.id with
  | none => rfl
  | some id =>
    show (if s.tasks.any fun u => u.running? == some id then _ else _) =
      beside (if _ then _ else _) t
    split
    · exact hrefuse
    · rfl

/-- **What a call changes does not depend on the service or on the reading**, and it changes
neither. -/
theorem dispatchCall_beside (s t : State) (call : Call) :
    (s.beside t).dispatchCall call = (s.dispatchCall call).beside t := by
  have hphase : (s.beside t).phase = s.phase := rfl
  unfold dispatchCall
  rw [hphase]
  split
  next name _ =>
    by_cases hignored : mayBeIgnored name = true
    · rw [if_pos hignored, if_pos hignored]
    · rw [if_neg hignored, if_neg hignored, refuse_beside]
  · rfl
  · by_cases h : s.phase = .uninitialized
    · rw [if_pos h, if_pos h, accept_beside]
      rfl
    · rw [if_neg h, if_neg h, refuse_beside]
  · by_cases h : s.phase = .initialized
    · rw [if_pos h, if_pos h, accept_beside]
      rfl
    · rw [if_neg h, if_neg h, refuse_beside]
  · by_cases h : s.phase = .initialized
    · rw [if_pos h, if_pos h, accept_beside]
    · rw [if_neg h, if_neg h, refuse_beside]

theorem dispatchReply_beside (s t : State) (id : Protocol.RequestId) (outcome : Protocol.Outcome) :
    (s.beside t).dispatchReply id outcome = (s.dispatchReply id outcome).beside t := by
  unfold dispatchReply
  dsimp only [beside]
  split <;> rfl

/-- So it is with any message that does not come behind an exit. -/
theorem dispatch_beside {s : State} (h : s.phase ≠ .exited) (t : State) (m : Message) :
    (s.beside t).dispatch m = (s.dispatch m).beside t := by
  have h' : (s.beside t).phase ≠ .exited := h
  unfold dispatch
  rw [if_neg h, if_neg h']
  cases m with
  | call c => exact s.dispatchCall_beside t c
  | reply id outcome => exact s.dispatchReply_beside t id outcome

theorem service_dispatch (s : State) (m : Message) : (s.dispatch m).service = s.service := by
  by_cases h : s.phase = .exited
  · unfold dispatch
    rw [if_pos h]
  · have hsame : s.dispatch m = (s.dispatch m).beside s := dispatch_beside h s m
    rw [hsame]
    rfl

theorem quiet_readBody (s : State) (body : List Char) : s.Quiet (s.readBody body) := by
  unfold readBody
  split
  · exact s.quiet_none
  · split
    · exact s.quiet_fail _
    · split
      · exact s.quiet_fail _
      next m _ =>
        split
        · exact ⟨s.service_dispatch m, rfl, rfl⟩
        · exact s.quiet_fail _

theorem quiet_readBodies (s : State) (bodies : List (List Char)) :
    s.Quiet (s.readBodies bodies) := by
  induction bodies generalizing s with
  | nil => exact s.quiet_none
  | cons body rest ih => exact (s.quiet_readBody body).append (ih _)

theorem quiet_leave (s : State) (i : Protocol.Framing.Input) (atEnd : Bool) :
    s.Quiet (s.leave i atEnd) := by
  unfold leave
  dsimp only
  split
  · exact ⟨rfl, rfl, rfl⟩
  · split <;> exact ⟨rfl, rfl, rfl⟩

theorem quiet_rest (s : State) (atEnd : Bool) (why : Protocol.Framing.Rest) :
    s.Quiet (s.rest atEnd why) := by
  cases why with
  | waiting i => exact s.quiet_leave i atEnd
  | paused i => exact s.quiet_leave i atEnd
  | fault cause => exact s.quiet_fail _

theorem quiet_readInput (s : State) (atEnd : Bool) : s.Quiet (s.readInput atEnd) := by
  unfold readInput
  rcases Protocol.Framing.drain s.input with ⟨bodies, why⟩
  have hbodies := s.quiet_readBodies bodies
  dsimp only
  split
  · exact hbodies
  · exact hbodies.append (quiet_rest _ atEnd why)

theorem quiet_readMore (s : State) (data : Bytes) : s.Quiet (s.readMore data) := by
  unfold readMore
  dsimp only
  split
  · exact ⟨rfl, rfl, rfl⟩
  · have hinput := quiet_readInput { s with input := s.input.extend data } false
    exact ⟨hinput.service, hinput.records, hinput.requests⟩

theorem quiet_readEnd (s : State) (atEnd : Bool) : s.Quiet (s.readEnd atEnd) := by
  unfold readEnd
  split
  · exact s.quiet_readInput true
  · exact s.quiet_none

/-- **Reading has nothing for the service.** -/
theorem quiet_read (s : State) (data : Bytes) (atEnd : Bool) : s.Quiet (s.read data atEnd) := by
  unfold read
  split
  · exact s.quiet_none
  · exact (s.quiet_readMore data).append (quiet_readEnd _ atEnd)

/-- What some events bring, of which requests may get lost. -/
structure Brings (s : Service) (events : List Event) (after : Service)
    (records : List Logging.Record) (messages : List Json) : Prop where
  service : after = (s.run events).1
  records : records = Service.recordsOf (s.run events).2
  requests : (messages.filterMap request?).Sublist (Service.requestsOf (s.run events).2)

theorem Brings.append {s t u : Service} {events more : List Event}
    {records records' : List Logging.Record} {messages messages' : List Json}
    (h : Brings s events t records messages) (h' : Brings t more u records' messages') :
    Brings s (events ++ more) u (records ++ records') (messages ++ messages') := by
  have hrun := Service.run_append s events more
  rw [← h.service] at hrun
  refine ⟨?_, ?_, ?_⟩
  · rw [hrun]
    exact h'.service
  · rw [hrun, h.records, h'.records, Service.recordsOf_append]
  · rw [hrun, List.filterMap_append, Service.requestsOf_append]
    exact h.requests.append h'.requests

/-- **A turn is some events for the service.** -/
theorem turn_brings (s : State) (data : Bytes) (atEnd : Bool) :
    ∃ events, Brings s.service events (s.turn data atEnd).1.service (s.turn data atEnd).2.records
      (s.turn data atEnd).2.messages := by
  have hread := s.quiet_read data atEnd
  obtain ⟨events, hwork⟩ := enacts_work (s.read data atEnd).1
  have hservice := hwork.service
  have hrecords := hwork.records
  rw [hread.service] at hservice hrecords
  refine ⟨events, hservice, ?_, ?_⟩
  · show ((s.read data atEnd).2 ++ (s.read data atEnd).1.work.2).records = _
    rw [Output.records_append, hread.records, hrecords]
    rfl
  · show ((s.read data atEnd).2 ++ (s.read data atEnd).1.work.2).requests.Sublist _
    rw [Output.requests_append, hread.requests, List.nil_append]
    by_cases hspeaks : (s.read data atEnd).1.Speaks
    · have hrequests := hwork.requests hspeaks
      rw [hread.service] at hrequests
      simp only [hrequests, List.Sublist.refl]
    · rw [hwork.silent hspeaks]
      exact List.nil_sublist _

end State

namespace Session

/-- **A session is some events for the service.** -/
theorem run_brings (s : Session) (steps : List (Bytes × Bool)) :
    ∃ events, State.Brings s.server.service events (s.run steps).1.server.service
      ((s.run steps).2.flatMap (·.records)) ((s.run steps).2.flatMap (·.messages)) := by
  induction steps generalizing s with
  | nil => exact ⟨[], rfl, rfl, List.Sublist.refl _⟩
  | cons step steps ih =>
    obtain ⟨data, atEnd⟩ := step
    have hfirst : ∃ events, State.Brings s.server.service events
        (s.step data atEnd).1.server.service (s.step data atEnd).2.records
        (s.step data atEnd).2.messages := s.server.turn_brings _ _
    obtain ⟨events, hfirst⟩ := hfirst
    obtain ⟨others, hrest⟩ := ih (s.step data atEnd).1
    exact ⟨events ++ others, hfirst.append hrest⟩

end Session

end KatakanaLsp.Server
