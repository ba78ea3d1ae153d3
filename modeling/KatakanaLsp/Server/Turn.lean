import KatakanaLsp.Json.Parser
import KatakanaLsp.Server.Dispatch

/-!
# Turns

In one turn a server reads what has arrived, dispatches every message in it, and then works until it
can do nothing more: first on the registrations that were replied to, then on the tasks in order. A
registration waits for its reply and keeps its place meanwhile; at most four places are taken at a
time, and then tasks stay until a reply comes.

Input that cannot be read is answered with an error of its own, at once, and ends the reading.
-/

namespace KatakanaLsp.Server

open Logging (Record)
open Protocol (Message Call RequestId ResponseError Outcome Method OpenParams CloseParams
  canceledId)

/-- What comes out of the server: messages, and records for the log. -/
structure Output where
  messages : List Json
  records : List Record

namespace Output

/-- Nothing. -/
def none : Output := ⟨[], []⟩

/-- One output and then another. -/
def append (a b : Output) : Output := ⟨a.messages ++ b.messages, a.records ++ b.records⟩

instance : Append Output := ⟨append⟩

/-- Records without messages. -/
def report (records : List Record) : Output := ⟨[], records⟩

/-- An answer that is an error, to a call that expects one. -/
def failure (call : Call) (cause : ResponseError) : Output :=
  match call.id with
  | some id => ⟨[Message.errorMessage id cause], []⟩
  | Option.none => none

end Output

/-- The number of tasks that may be unfinished at a time. -/
def maxUnfinished : Nat := 4

/-! ## Giving up requests -/

namespace Task

/-- The request that a task asks to give up. -/
def cancels? : Task → Option RequestId
  | .run .cancelRequest call _ =>
    if call.id.isSome then none
    else (call.params.bind fun v => (canceledId v).toOption).bind RequestId.ofJson?
  | _ => none

/-- What becomes of the tasks behind one that runs: the request it asks to give up is given up, if
it is running. -/
def giveUpIn (t : Task) (rest : List Task) : List Task :=
  match t.cancels? with
  | none => rest
  | some id => rest.map fun u => if u.running? = some id then u.giveUp else u

theorem length_giveUpIn (t : Task) (rest : List Task) : (t.giveUpIn rest).length = rest.length := by
  unfold giveUpIn
  split
  · rfl
  · rw [List.length_map]

end Task

namespace State

/-! ## Running a method -/

/-- The parameters of a call, in the shape that a decoder reads. -/
def paramsOf {α : Type} (call : Call) (decode : Json → Except Decode.DecodeError α) :
    Except ResponseError α :=
  match call.params with
  | some v => (decode v).mapError fun e => .invalidParams e.message
  | none => .error (.invalidParams "Missing params field")

/-- Runs `initialize` for a request. The server counts as initialized once it has succeeded. -/
def runInitialize (s : State) (call : Call) : State × Output :=
  let settle (phase : Phase) : Phase := if s.phase = .exited then .exited else phase
  match call.id with
  | none => ({ s with phase := settle .uninitialized }, .none)
  | some id =>
    match paramsOf call Protocol.InitializeParams.decode with
    | .error e => ({ s with phase := settle .uninitialized }, .failure call e)
    | .ok params =>
      let (service, result, records) := s.service.onInitialize params
      ({ s with service := service, phase := settle .initialized },
        ⟨[Message.resultMessage id result.json], records⟩)

/-- Runs `shutdown` for a request. -/
def runShutdown (s : State) (call : Call) : Output :=
  match call.id, call.params with
  | none, _ => .none
  | some _, some v => .failure call (.invalidParams ("Unexpected params: " ++ v.text))
  | some id, none => ⟨[Message.resultMessage id .null], s.service.onShutdown⟩

/-- Runs `textDocument/completion` for a request. -/
def runCompletion (s : State) (call : Call) : Output :=
  match call.id with
  | none => .none
  | some id =>
    match paramsOf call Protocol.completionContext with
    | .error e => .failure call e
    | .ok context =>
      let (items, records) := s.service.onCompletion context
      ⟨[Message.resultMessage id (.array (items.map (·.json)))], records⟩

/-- Sends a registration and waits for the reply. It is refused after `exit`, and it goes unheard
when reading has ended. -/
def register (s : State) (r : Registration) : State × Output :=
  if s.phase = .exited then
    (s, .report [s.service.onRegistered (.error ResponseError.notInitialized.text)])
  else
    let number := s.nextRequest.toNat
    let request := Message.requestMessage number registerMethod (registrationParams [r])
    ({ s with registering := s.registering ++ [number], nextRequest := s.nextRequest + 1 },
      ⟨if s.reading = .going then [request] else [], []⟩)

/-- Runs `initialized`. -/
def runInitialized (s : State) : State × Output :=
  let (registration, records) := s.service.onInitialized
  match registration with
  | none => (s, .report records)
  | some r =>
    let (s, sent) := s.register r
    (s, .report records ++ sent)

/-- Runs a method that is not served. -/
def runUnserved (call : Call) (shape : Decode.Shape) : Output :=
  match call.id, paramsOf call shape.decode with
  | none, _ => .none
  | some _, .error e => .failure call e
  | some _, .ok _ => .failure call (.methodNotFound none)

/-- Runs a notification, whose parameters must have the right shape. One that comes with an
identifier is no notification. -/
def runNotification {α : Type} (s : State) (call : Call)
    (decode : Json → Except Decode.DecodeError α) (handle : α → State × Output) :
    State × Output :=
  if call.id.isSome then (s, .failure call .invalidRequest)
  else
    match paramsOf call decode with
    | .error _ => (s, .none)
    | .ok params => handle params

/-- The shape of the parameters of `initialized`. -/
def initializedShape : Decode.Shape := .record "InitializedParams" .done

/-- Runs a method. -/
def runMethod (s : State) (method : Method) (call : Call) : State × Output :=
  match method with
  | .initializeServer => s.runInitialize call
  | .shutdown => (s, s.runShutdown call)
  | .completion => (s, s.runCompletion call)
  | .initialized => s.runNotification call initializedShape.decode fun _ => s.runInitialized
  | .didOpen => s.runNotification call OpenParams.decode fun params =>
      let (service, records) := s.service.onOpen params
      ({ s with service := service }, .report records)
  | .didClose => s.runNotification call CloseParams.decode fun params =>
      let (service, records) := s.service.onClose params
      ({ s with service := service }, .report records)
  | .cancelRequest => s.runNotification call canceledId fun _ => (s, .none)
  | .unservedRequest shape => (s, runUnserved call shape)
  | .unservedNotification => (s, if call.id.isSome then .failure call .invalidRequest else .none)
  | .exit => (s, .none)
  | .unknown _ => (s, .none)

/-- Runs a task. -/
def runTask (s : State) : Task → State × Output
  | .refuse id cause => (s, ⟨[Message.errorMessage id cause], []⟩)
  | .run method call givenUp =>
    if givenUp then (s, .failure call .canceled) else s.runMethod method call

/-- Runs tasks in order, as long as a place is free; those that are left stay. -/
def runTasks (s : State) : List Task → State × Output
  | [] => ({ s with tasks := [] }, .none)
  | t :: rest =>
    if s.registering.length < maxUnfinished then
      let (s, out) := s.runTask t
      let (s, more) := s.runTasks (t.giveUpIn rest)
      (s, out ++ more)
    else ({ s with tasks := t :: rest }, .none)
termination_by ts => ts.length
decreasing_by simp only [Task.length_giveUpIn, List.length_cons]; omega

/-- Whether a registration succeeded: its result must be null. -/
def registered : Outcome → Except String Unit
  | .result .null => .ok ()
  | .result v =>
    let message := (Decode.DecodeError.invalidType v "unit").message
    .error { ResponseError.parseError with message := message }.text
  | .error e => .error e.text

/-- Works until nothing more can be done. -/
def work (s : State) : State × Output :=
  let settled := s.replies.map fun o => s.service.onRegistered (registered o)
  let (s, out) := { s with replies := [] }.runTasks s.tasks
  (s, .report settled ++ out)

/-! ## Reading -/

/-- Ends the reading with an error for what cannot be read. -/
def fail (s : State) (cause : ResponseError) : State × Output :=
  ({ s with reading := .ended }, ⟨[Message.errorMessage .null cause], []⟩)

/-- Reads a body and dispatches the message in it. A value that is no message is a fault of its own,
whatever follows it. -/
def readBody (s : State) (body : List Char) : State × Output :=
  if s.reading ≠ .going then (s, .none)
  else
    match Json.parseFront? body with
    | none => s.fail .parseError
    | some (j, rest) =>
      match Message.ofJson? j with
      | none => s.fail .invalidRequest
      | some m => if Json.skip rest = [] then (s.dispatch m, .none) else s.fail .parseError

/-- Reads bodies in order. -/
def readBodies (s : State) : List (List Char) → State × Output
  | [] => (s, .none)
  | body :: rest =>
    let (s, out) := s.readBody body
    let (s, more) := s.readBodies rest
    (s, out ++ more)

/-- Leaves input that cannot be read yet. At the end of the input nothing may be left over. -/
def leave (s : State) (i : Protocol.Framing.Input) (atEnd : Bool) : State × Output :=
  let s := { s with input := i }
  if !atEnd then (s, .none)
  else if i.unread.isEmpty then ({ s with reading := .ended }, .none)
  else s.fail .parseError

/-- Comes to rest behind the bodies that were read. -/
def rest (s : State) (atEnd : Bool) : Protocol.Framing.Rest → State × Output
  | .waiting i => s.leave i atEnd
  | .paused i => s.leave i atEnd
  | .fault _ => s.fail .parseError

/-- Reads what has arrived. -/
def readInput (s : State) (atEnd : Bool) : State × Output :=
  let (bodies, why) := Protocol.Framing.drain s.input
  let (s, out) := s.readBodies bodies
  if s.reading ≠ .going then (s, out)
  else
    let (s, more) := s.rest atEnd why
    (s, out ++ more)

/-- Reads what arrives now. -/
def readMore (s : State) (data : Bytes) : State × Output :=
  let s := { s with input := s.input.extend data }
  if data.isEmpty then (s, .none) else s.readInput false

/-- Reads up to the end of the input, if this is the end and reading is not over before. -/
def readEnd (s : State) (atEnd : Bool) : State × Output :=
  if atEnd && s.reading = .going then s.readInput true else (s, .none)

/-- Reads what arrives now and perhaps ends there, unless reading is over. -/
def read (s : State) (data : Bytes) (atEnd : Bool) : State × Output :=
  if s.reading ≠ .going then (s, .none)
  else
    let (s, out) := s.readMore data
    let (s, more) := s.readEnd atEnd
    (s, out ++ more)

/-- One turn: reading and then working. -/
def turn (s : State) (data : Bytes) (atEnd : Bool) : State × Output :=
  let (s, out) := s.read data atEnd
  let (s, more) := s.work
  (s, out ++ more)

/-- Whether the server has come to its end. -/
def isDone (s : State) : Bool := s.reading = .ended && s.tasks.isEmpty && s.registering.isEmpty

end State

end KatakanaLsp.Server
