import KatakanaLsp.Proofs.Json.Extent
import KatakanaLsp.Server.Turn

/-!
# What a server says

Whatever arrives, the server says nothing that a reader would not take back as it is: its messages
have only integers of 64 bits in them and are nested at most seven deep (`Output.Sound`). Most of a
message is made of texts and constants. What comes from outside is the identifier of the request
that it answers, which was read as an integer of 64 bits. So the invariant is about the tasks, in
which identifiers and refusals wait for their turn:

> `State.Sound`: the tasks that are open carry sound identifiers and sound refusals.

A message that is dispatched keeps it (`State.Sound.dispatch`), running tasks keeps it and says
sound messages (`State.runTasks_sound`), and so does a turn:

> `State.turn_sound`: from a sound state, a turn leads to a sound state and says sound messages.
-/

namespace KatakanaLsp

namespace Json

/-- A value with integers of 64 bits only, nested at most so deep. -/
abbrev Readable (d : Nat) (j : Json) : Prop := j.Within JsonNumber.Whole d

variable {d : Nat}

theorem readable_int {i : Int} (h : IsWord i) : (Json.int i).Readable d := within_number.mpr h

theorem readable_nat {n : Nat} (h : n ≤ Decimal.max64) : (Json.nat n).Readable d := by
  refine readable_int ⟨?_, Int.ofNat_le.mpr h⟩
  simp only [Decimal.maxSigned64]
  omega

theorem readable_strings (l : List String) : (Json.strings l).Readable (d + 1) := by
  refine within_array.mpr fun v hv => ?_
  obtain ⟨s, -, rfl⟩ := List.mem_map.mp hv
  exact within_string s

/-- A field is within the bounds of the value that it is in. -/
theorem Within.field? {p : JsonNumber → Prop} {j v : Json} {key : String} (h : Within p d j)
    (hv : j.field? key = some v) : Within p d v := by
  unfold Json.field? fields at hv
  split at hv
  · next fs =>
    cases d with
    | zero => exact absurd h not_within_object
    | succ d =>
      obtain ⟨l₁, l₂, hfs, -⟩ := List.lookup_eq_some_iff.mp hv
      have hmem : (key, v) ∈ fs := by
        rw [hfs]
        exact List.mem_append_right _ (List.mem_cons_self ..)
      exact (within_object.mp h (key, v) hmem).mono (Nat.le_succ d)
  · cases hv

end Json

namespace Protocol

open Json (within_object within_array within_string within_null within_bool readable_int
  readable_nat readable_strings)

/-! ## Identifiers and errors -/

/-- An identifier that can be said. -/
def RequestId.Sound (id : RequestId) : Prop := id.json.Readable 0

/-- An error that can be said. -/
def ResponseError.Sound (e : ResponseError) : Prop := e.json.Readable 1

theorem RequestId.sound_null : RequestId.null.Sound := Json.within_null

/-- An identifier that was read can be said. -/
theorem RequestId.sound_of_ofJson? {j : Json} {d : Nat} {id : RequestId}
    (hj : j.Within Json.IsRead d) (h : RequestId.ofJson? j = some id) : id.Sound := by
  unfold RequestId.ofJson? at h
  split at h
  · split at h
    · obtain rfl := Option.some.inj h
      exact readable_int (Json.within_number.mp hj _ rfl)
    · cases h
  · obtain rfl := Option.some.inj h
    exact within_string _
  · obtain rfl := Option.some.inj h
    exact within_null
  · cases h

/-- An error with a code of 64 bits can be said, if its data are a text or missing. -/
theorem ResponseError.sound {code : Int} (hcode : IsWord code) (message : String)
    (data : Option String) : (⟨code, message, data.map .string⟩ : ResponseError).Sound := by
  refine within_object.mpr fun f hf => ?_
  cases data with
  | none =>
    simp only [Option.map_none, List.append_nil, List.mem_cons, List.not_mem_nil, or_false] at hf
    obtain rfl | rfl := hf
    · exact readable_int hcode
    · exact within_string message
  | some text =>
    simp only [Option.map_some, List.cons_append, List.nil_append,
      List.mem_cons, List.not_mem_nil, or_false] at hf
    obtain rfl | rfl | rfl := hf
    · exact readable_int hcode
    · exact within_string text
    · exact within_string message

theorem ResponseError.sound_parseError : ResponseError.parseError.Sound :=
  ResponseError.sound (by decide) _ none

theorem ResponseError.sound_invalidRequest : ResponseError.invalidRequest.Sound :=
  ResponseError.sound (by decide) _ none

theorem ResponseError.sound_methodNotFound (name : Option String) :
    (ResponseError.methodNotFound name).Sound :=
  ResponseError.sound (by decide) _ name

theorem ResponseError.sound_invalidParams (message : String) :
    (ResponseError.invalidParams message).Sound :=
  ResponseError.sound (by decide) message none

theorem ResponseError.sound_notInitialized : ResponseError.notInitialized.Sound :=
  ResponseError.sound (by decide) _ none

theorem ResponseError.sound_canceled : ResponseError.canceled.Sound :=
  ResponseError.sound (by decide) _ none

/-! ## Messages -/

/-- A call whose identifier, if it has one, can be said. -/
def Call.Sound (c : Call) : Prop := ∀ id, c.id = some id → id.Sound

/-- A message whose identifier, if it is a call and has one, can be said. -/
def Message.Sound : Message → Prop
  | .call c => c.Sound
  | .reply _ _ => True

theorem Message.sound_of_reply? {j : Json} {m : Message} (h : Message.reply? j = some m) :
    m.Sound := by
  unfold Message.reply? at h
  split at h
  · cases h
  · obtain ⟨id, -, h⟩ := Option.bind_eq_some_iff.mp h
    obtain ⟨outcome, -, h⟩ := Option.bind_eq_some_iff.mp h
    obtain rfl := Option.some.inj h
    exact trivial

theorem Message.sound_of_call? {j : Json} {d : Nat} {m : Message} (hj : j.Within Json.IsRead d)
    (h : Message.call? j = some m) : m.Sound := by
  unfold Message.call? at h
  split at h
  · cases h
  · obtain ⟨method, -, h⟩ := Option.bind_eq_some_iff.mp h
    obtain ⟨id, hid, h⟩ := Option.bind_eq_some_iff.mp h
    obtain rfl := Option.some.inj h
    intro known hknown
    obtain rfl : id = some known := hknown
    unfold Message.identifier? at hid
    split at hid
    · cases hid
    next v hv =>
      obtain ⟨found, hfound, hsame⟩ := Option.map_eq_some_iff.mp hid
      obtain rfl := Option.some.inj hsame
      exact RequestId.sound_of_ofJson? (hj.field? hv) hfound

/-- A message that was read has an identifier that can be said. -/
theorem Message.sound_of_ofJson? {j : Json} {d : Nat} {m : Message}
    (hj : j.Within Json.IsRead d) (h : Message.ofJson? j = some m) : m.Sound := by
  unfold Message.ofJson? at h
  split at h
  · cases hreply : Message.reply? j with
    | some r =>
      rw [hreply] at h
      exact sound_of_reply? (hreply.trans h)
    | none =>
      rw [hreply] at h
      exact sound_of_call? hj h
  · cases h

theorem Message.readable_error {id : RequestId} {cause : ResponseError} (hid : id.Sound)
    (hcause : cause.Sound) : (Message.errorMessage id cause).Readable 2 := by
  simp only [Message.errorMessage, within_object, List.forall_mem_cons]
  exact ⟨within_string _, hcause, hid.mono (Nat.zero_le 1), nofun⟩

theorem Message.readable_result {id : RequestId} {result : Json} {d : Nat} (hid : id.Sound)
    (hresult : result.Readable d) : (Message.resultMessage id result).Readable (d + 1) := by
  simp only [Message.resultMessage, within_object, List.forall_mem_cons]
  exact ⟨within_string _, hresult, hid.mono (Nat.zero_le d), nofun⟩

theorem Message.readable_request {n : Nat} {method : String} {params : Json} {d : Nat}
    (hn : n ≤ Decimal.max64) (hparams : params.Readable d) :
    (Message.requestMessage n method params).Readable (d + 1) := by
  simp only [Message.requestMessage, within_object, List.forall_mem_cons]
  exact ⟨within_string _, within_string _, hparams, readable_nat hn, nofun⟩

end Protocol

/-! ## What the service answers -/

open Json (within_object within_array within_string within_null within_bool readable_nat
  readable_strings)

theorem Completion.Command.readable (c : Completion.Command) : c.json.Readable 1 := by
  simp only [Completion.Command.json, within_object, List.forall_mem_cons]
  exact ⟨within_string _, within_string _, nofun⟩

theorem Completion.Candidate.readable (c : Completion.Candidate) : c.item.json.Readable 2 := by
  have hkind : c.item.kind ≤ Decimal.max64 := by
    show Completion.itemKind c.category ≤ _
    cases c.category <;> decide
  have hformat : Completion.plainTextFormat ≤ Decimal.max64 := by decide
  simp only [Completion.Item.json, within_object, List.forall_mem_append, List.forall_mem_cons]
  refine ⟨?_, within_string _, ⟨within_string _, within_string _, nofun⟩, within_string _,
    readable_nat hformat, readable_nat hkind, within_string _, nofun⟩
  cases c.item.command with
  | none => exact nofun
  | some command => exact List.forall_mem_singleton.mpr command.readable

namespace Server

open Protocol (Call Message Method RequestId ResponseError)

theorem CompletionOptions.readable (o : CompletionOptions) :
    ∀ f ∈ o.fields, f.2.Readable 1 := by
  simp only [CompletionOptions.fields, List.forall_mem_cons]
  exact ⟨within_bool _, readable_strings _, nofun⟩

theorem InitializeResult.readable (r : InitializeResult) : r.json.Readable 4 := by
  simp only [InitializeResult.json, within_object, List.forall_mem_append, List.forall_mem_cons]
  refine ⟨⟨?_, ⟨readable_nat (Nat.zero_le _), within_bool _, nofun⟩, nofun⟩,
    ⟨within_string _, within_string _, nofun⟩, nofun⟩
  cases r.completionProvider with
  | none => exact nofun
  | some o => exact List.forall_mem_singleton.mpr (within_object.mpr o.readable)

theorem DocumentFilter.readable (f : Config.DocumentFilter) : f.json.Readable 1 := by
  simp only [Config.DocumentFilter.json, within_object, List.forall_mem_append]
  refine ⟨⟨?_, ?_⟩, ?_⟩
  all_goals
    split
    · exact List.forall_mem_singleton.mpr (within_string _)
    · exact nofun

theorem readable_registrationParams (rs : List Registration) :
    (registrationParams rs).Readable 6 := by
  refine within_object.mpr (List.forall_mem_singleton.mpr (within_array.mpr fun v hv => ?_))
  obtain ⟨r, -, rfl⟩ := List.mem_map.mp hv
  simp only [Registration.json, within_object, List.forall_mem_cons]
  refine ⟨within_string _, within_string _, ⟨?_, ?_⟩, nofun⟩
  · refine within_array.mpr fun w hw => ?_
    obtain ⟨f, -, rfl⟩ := List.mem_map.mp hw
    exact DocumentFilter.readable f
  · exact fun f hf => (r.options.readable f hf).mono (by decide)

/-! ## What the server says -/

/-- Messages that can be said, and read. -/
def Output.Sound (o : Output) : Prop := ∀ m ∈ o.messages, m.Readable 7

namespace Output

theorem sound_none : none.Sound := nofun

theorem sound_report (records : List Logging.Record) : (report records).Sound := nofun

theorem sound_single {m : Json} {d : Nat} (h : m.Readable d) (hd : d ≤ 7)
    (records : List Logging.Record) : (⟨[m], records⟩ : Output).Sound :=
  List.forall_mem_singleton.mpr (h.mono hd)

theorem Sound.append {a b : Output} (ha : a.Sound) (hb : b.Sound) : (a ++ b).Sound :=
  List.forall_mem_append.mpr ⟨ha, hb⟩

theorem sound_failure {call : Call} {cause : ResponseError} (hcall : call.Sound)
    (hcause : cause.Sound) : (failure call cause).Sound := by
  unfold failure
  split
  next id hid =>
    exact sound_single (Message.readable_error (hcall id hid) hcause) (by decide) _
  next => exact sound_none

end Output

/-- A task that carries only what can be said. -/
def Task.Sound : Task → Prop
  | .refuse id cause => id.Sound ∧ cause.Sound
  | .run _ call _ => call.Sound

theorem Task.Sound.giveUp {t : Task} (h : t.Sound) : t.giveUp.Sound := by
  unfold Task.giveUp
  split <;> exact h

theorem Task.Sound.giveUpIn {t : Task} {rest : List Task} (h : ∀ u ∈ rest, u.Sound) :
    ∀ u ∈ t.giveUpIn rest, u.Sound := by
  unfold Task.giveUpIn
  split
  · exact h
  · intro u hu
    obtain ⟨w, hw, rfl⟩ := List.mem_map.mp hu
    split
    · exact (h w hw).giveUp
    · exact h w hw

namespace State

/-- A server whose open tasks carry only what can be said. -/
def Sound (s : State) : Prop := ∀ t ∈ s.tasks, t.Sound

theorem sound_start (service : Service) : (start service).Sound := nofun

/-! ## Dispatching -/

variable {s : State}

theorem Sound.enqueue (h : s.Sound) {t : Task} (ht : t.Sound) : (s.enqueue t).Sound :=
  List.forall_mem_append.mpr ⟨h, List.forall_mem_singleton.mpr ht⟩

theorem Sound.refuse (h : s.Sound) {call : Call} (hcall : call.Sound)
    {cause : ResponseError} (hcause : cause.Sound) : (s.refuse call cause).Sound := by
  unfold State.refuse
  split
  next id hid => exact h.enqueue ⟨hcall id hid, hcause⟩
  next => exact h

theorem Sound.accept (h : s.Sound) (method : Method) {call : Call}
    (hcall : call.Sound) : (s.accept method call).Sound := by
  have hrun : (s.enqueue (.run method call false)).Sound := h.enqueue hcall
  unfold State.accept
  split
  · exact hrun
  · split
    · exact h.refuse hcall ResponseError.sound_invalidRequest
    · exact hrun

theorem sound_refusal (p : Phase) : p.refusal.Sound := by
  cases p with
  | uninitialized => exact ResponseError.sound_notInitialized
  | initializing => exact ResponseError.sound_notInitialized
  | initialized => exact ResponseError.sound_invalidRequest
  | shutDown => exact ResponseError.sound_invalidRequest
  | exited => exact ResponseError.sound_invalidRequest

theorem Sound.dispatchCall (h : s.Sound) {call : Call} (hcall : call.Sound) :
    (s.dispatchCall call).Sound := by
  have hrefused : (s.refuse call s.phase.refusal).Sound := h.refuse hcall (sound_refusal s.phase)
  unfold State.dispatchCall
  split
  · split
    · exact h
    · exact h.refuse hcall (ResponseError.sound_methodNotFound _)
  · intro t ht
    obtain ⟨u, hu, rfl⟩ := List.mem_map.mp ht
    exact (h u hu).giveUp
  · split
    · exact h.accept .initializeServer hcall
    · exact h.refuse hcall ResponseError.sound_invalidRequest
  · split
    · exact h.accept .shutdown hcall
    · exact hrefused
  · split
    · exact h.accept _ hcall
    · exact hrefused

/-- **A message that is dispatched leaves a sound state.** -/
theorem Sound.dispatch (h : s.Sound) {m : Message} (hm : m.Sound) :
    (s.dispatch m).Sound := by
  unfold State.dispatch
  split
  · exact h
  · cases m with
    | call call => exact h.dispatchCall hm
    | reply id outcome =>
      -- a reply goes to a registration, not to a task
      show (s.dispatchReply id outcome).Sound
      unfold State.dispatchReply
      split <;> exact h

/-! ## Reading -/

/-- A state and an output that are both sound. -/
def SoundPair (r : State × Output) : Prop := r.1.Sound ∧ r.2.Sound

/-- Doing one thing after another. -/
theorem SoundPair.append {r : State × Output} {out : Output} (hr : SoundPair r) (hout : out.Sound) :
    SoundPair (r.1, out ++ r.2) := ⟨hr.1, hout.append hr.2⟩

theorem Sound.fail (h : s.Sound) {cause : ResponseError} (hcause : cause.Sound) :
    SoundPair (s.fail cause) :=
  ⟨h, Output.sound_single
    (Message.readable_error RequestId.sound_null hcause) (by decide) _⟩

theorem Sound.readBody (h : s.Sound) (body : List Char) : SoundPair (s.readBody body) := by
  have hfault := h.fail ResponseError.sound_parseError
  unfold State.readBody
  split
  · exact ⟨h, Output.sound_none⟩
  · split
    · exact hfault
    next j rest hread =>
      split
      · exact h.fail ResponseError.sound_invalidRequest
      next m hm =>
        split
        · -- what was read of the body bounds what the message says
          have hj := Json.within_of_parseFront? hread
          exact ⟨h.dispatch (Message.sound_of_ofJson? hj hm), Output.sound_none⟩
        · exact hfault

theorem Sound.readBodies (h : s.Sound) (bodies : List (List Char)) :
    SoundPair (s.readBodies bodies) := by
  induction bodies generalizing s with
  | nil => exact ⟨h, Output.sound_none⟩
  | cons body rest ih =>
    obtain ⟨hnext, hout⟩ := h.readBody body
    exact (ih hnext).append hout

theorem Sound.leave (h : s.Sound) (i : Protocol.Framing.Input) (atEnd : Bool) :
    SoundPair (s.leave i atEnd) := by
  unfold State.leave
  dsimp only
  split
  · exact ⟨h, Output.sound_none⟩
  · split
    · exact ⟨h, Output.sound_none⟩
    · exact Sound.fail h ResponseError.sound_parseError

theorem Sound.rest (h : s.Sound) (atEnd : Bool) (why : Protocol.Framing.Rest) :
    SoundPair (s.rest atEnd why) := by
  cases why with
  | waiting i => exact h.leave i atEnd
  | paused i => exact h.leave i atEnd
  | fault cause => exact h.fail ResponseError.sound_parseError

theorem Sound.readInput (h : s.Sound) (atEnd : Bool) : SoundPair (s.readInput atEnd) := by
  unfold State.readInput
  rcases Protocol.Framing.drain s.input with ⟨bodies, why⟩
  obtain ⟨hread, hout⟩ := h.readBodies bodies
  dsimp only
  split
  · exact ⟨hread, hout⟩
  · exact (hread.rest atEnd why).append hout

theorem Sound.readMore (h : s.Sound) (data : Bytes) : SoundPair (s.readMore data) := by
  have hmore : Sound { s with input := s.input.extend data } := h
  unfold State.readMore
  dsimp only
  split
  · exact ⟨hmore, Output.sound_none⟩
  · exact hmore.readInput false

theorem Sound.readEnd (h : s.Sound) (atEnd : Bool) : SoundPair (s.readEnd atEnd) := by
  unfold State.readEnd
  split
  · exact h.readInput true
  · exact ⟨h, Output.sound_none⟩

/-- **Whatever arrives, reading it keeps a state sound.** -/
theorem Sound.read (h : s.Sound) (data : Bytes) (atEnd : Bool) : SoundPair (s.read data atEnd) := by
  unfold State.read
  split
  · exact ⟨h, Output.sound_none⟩
  · obtain ⟨hread, hout⟩ := h.readMore data
    exact (hread.readEnd atEnd).append hout

/-! ## Running tasks -/

section Running

variable {call : Call}

/-- Parameters are refused with an error that can be said. -/
theorem sound_of_paramsOf {α : Type} {decode : Json → Except Decode.DecodeError α}
    {e : ResponseError} (h : paramsOf call decode = .error e) : e.Sound := by
  unfold paramsOf at h
  split at h
  next v _ =>
    cases hv : decode v with
    | ok a =>
      rw [hv] at h
      cases h
    | error cause =>
      rw [hv] at h
      obtain rfl := Except.error.inj h
      exact ResponseError.sound_invalidParams _
  next =>
    obtain rfl := Except.error.inj h
    exact ResponseError.sound_invalidParams _

theorem sound_runInitialize (s : State) (hcall : call.Sound) : (s.runInitialize call).2.Sound := by
  unfold runInitialize
  dsimp only
  split
  · exact Output.sound_none
  next id hid =>
    split
    next e he => exact Output.sound_failure hcall (sound_of_paramsOf he)
    next params _ =>
      have hresult := (s.service.onInitialize params).2.1.readable
      exact Output.sound_single (Message.readable_result (hcall id hid) hresult)
        (by decide) _

theorem sound_runShutdown (s : State) (hcall : call.Sound) : (s.runShutdown call).Sound := by
  unfold runShutdown
  split
  · exact Output.sound_none
  · exact Output.sound_failure hcall (ResponseError.sound_invalidParams _)
  next id hid _ =>
    exact Output.sound_single
      (Message.readable_result (d := 0) (hcall id hid) Json.within_null) (by decide) _

theorem sound_runCompletion (s : State) (hcall : call.Sound) : (s.runCompletion call).Sound := by
  unfold runCompletion
  split
  · exact Output.sound_none
  next id hid =>
    split
    next e he => exact Output.sound_failure hcall (sound_of_paramsOf he)
    next context _ =>
      have hitems : (Json.array ((s.service.onCompletion context).1.map (·.json))).Readable 3 := by
        refine within_array.mpr fun v hv => ?_
        obtain ⟨item, hitem, rfl⟩ := List.mem_map.mp hv
        obtain ⟨c, -, rfl⟩ := List.mem_map.mp hitem
        exact c.readable
      have hresult := Message.readable_result (hcall id hid) hitems
      exact Output.sound_single hresult (by decide) _

theorem sound_register (s : State) (r : Registration) : (s.register r).2.Sound := by
  have hnumber : s.nextRequest.toNat ≤ Decimal.max64 :=
    Nat.le_trans (Nat.le_of_lt s.nextRequest.toNat_lt) (by decide)
  have hrequest : (Message.requestMessage s.nextRequest.toNat registerMethod
      (registrationParams [r])).Readable 7 :=
    Message.readable_request hnumber (readable_registrationParams [r])
  unfold register
  split
  · exact Output.sound_report _
  · dsimp only
    split
    · exact List.forall_mem_singleton.mpr hrequest
    · exact Output.sound_none

theorem sound_runInitialized (s : State) : s.runInitialized.2.Sound := by
  unfold runInitialized
  rcases s.service.onInitialized with ⟨registration, records⟩
  cases registration with
  | none => exact Output.sound_report _
  | some r => exact Output.Sound.append (Output.sound_report _) (s.sound_register r)

theorem sound_runUnserved (hcall : call.Sound) (shape : Decode.Shape) :
    (runUnserved call shape).Sound := by
  unfold runUnserved
  split
  · exact Output.sound_none
  next he => exact Output.sound_failure hcall (sound_of_paramsOf he)
  · exact Output.sound_failure hcall (ResponseError.sound_methodNotFound none)

theorem sound_runNotification (s : State) (hcall : call.Sound) {α : Type}
    {decode : Json → Except Decode.DecodeError α} {handle : α → State × Output}
    (hhandle : ∀ params, (handle params).2.Sound) :
    (s.runNotification call decode handle).2.Sound := by
  unfold runNotification
  split
  · exact Output.sound_failure hcall ResponseError.sound_invalidRequest
  · split
    · exact Output.sound_none
    · exact hhandle _

theorem sound_runMethod (s : State) (method : Method) (hcall : call.Sound) :
    (s.runMethod method call).2.Sound := by
  cases method with
  | initializeServer => exact s.sound_runInitialize hcall
  | shutdown => exact s.sound_runShutdown hcall
  | completion => exact s.sound_runCompletion hcall
  | initialized => exact s.sound_runNotification hcall fun _ => s.sound_runInitialized
  | didOpen => exact s.sound_runNotification hcall fun _ => Output.sound_report _
  | didClose => exact s.sound_runNotification hcall fun _ => Output.sound_report _
  | cancelRequest => exact s.sound_runNotification hcall fun _ => Output.sound_none
  | unservedRequest shape => exact sound_runUnserved hcall shape
  | unservedNotification =>
    show (if call.id.isSome then Output.failure call .invalidRequest else .none).Sound
    split
    · exact Output.sound_failure hcall ResponseError.sound_invalidRequest
    · exact Output.sound_none
  | exit => exact Output.sound_none
  | unknown name => exact Output.sound_none

end Running

/-- A task that carries only what can be said says only that. -/
theorem sound_runTask (s : State) {t : Task} (h : t.Sound) : (s.runTask t).2.Sound := by
  cases t with
  | refuse id cause =>
    exact Output.sound_single (Message.readable_error h.1 h.2) (by decide) _
  | run method call givenUp =>
    show (if givenUp then (s, Output.failure call .canceled) else s.runMethod method call).2.Sound
    split
    · exact Output.sound_failure h ResponseError.sound_canceled
    · exact s.sound_runMethod method h

/-- **Running sound tasks leaves sound tasks and says only what can be said.** -/
theorem runTasks_sound (s : State) {ts : List Task} (h : ∀ t ∈ ts, t.Sound) :
    SoundPair (s.runTasks ts) := by
  -- along the recursion, in which a task may give up those behind it
  induction s, ts using runTasks.induct with
  | case1 s =>
    rw [runTasks]
    exact ⟨nofun, Output.sound_none⟩
  | case2 s t rest hfree s' out hrun last more hothers ih =>
    obtain ⟨ht, hrest⟩ := List.forall_mem_cons.mp h
    have hout := s.sound_runTask ht
    rw [runTasks, if_pos hfree, hrun]
    rw [hrun] at hout
    exact (ih (Task.Sound.giveUpIn hrest)).append hout
  | case3 s t rest hfull =>
    rw [runTasks, if_neg hfull]
    exact ⟨h, Output.sound_none⟩

/-- Working on sound tasks. -/
theorem Sound.work (h : s.Sound) : SoundPair s.work := by
  unfold State.work
  exact (runTasks_sound _ h).append (Output.sound_report _)

/-- **A turn of a sound server says only what can be said, and leaves it sound.** -/
theorem turn_sound (h : s.Sound) (data : Bytes) (atEnd : Bool) : SoundPair (s.turn data atEnd) := by
  obtain ⟨hread, hout⟩ := h.read data atEnd
  exact hread.work.append hout

end State

end Server

end KatakanaLsp
