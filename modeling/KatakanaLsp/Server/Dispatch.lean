import KatakanaLsp.Protocol.Framing
import KatakanaLsp.Protocol.Message
import KatakanaLsp.Protocol.Method
import KatakanaLsp.Server.Service

/-!
# Dispatch

The server takes messages in the order in which they arrive, and decides at once what becomes of
each: it is refused, or turned into a task that is run later, or, when it replies to a registration,
handed to the task that waits for it. The life of a server goes from uninitialized over initialized
to shut down, and it can exit at any time. `shutdown` and `exit` count as soon as they are
dispatched; `initialize` counts when it has been answered with success.

After `exit` one further message brings reading to a standstill for good.
-/

namespace KatakanaLsp.Server

open Protocol (Message Call RequestId ResponseError Outcome Method)

/-- Where a server is in its life. -/
inductive Phase where
  | uninitialized
  | initializing
  | initialized
  | shutDown
  | exited
  deriving DecidableEq, Repr

/-- The error for a method that cannot be called in a phase. -/
def Phase.refusal : Phase → ResponseError
  | .uninitialized => .notInitialized
  | .initializing => .notInitialized
  | _ => .invalidRequest

/-- Whether the server still reads: it does; or it has come to the end of its input; or it stands
still, and will never come to an end. -/
inductive Reading where
  | going
  | ended
  | stalled
  deriving DecidableEq, Repr

/-- A piece of work: an answer that is known already, or a method to run. A method that was given up
before it ran is answered without running. -/
inductive Task where
  | refuse (id : RequestId) (cause : ResponseError)
  | run (method : Method) (call : Call) (givenUp : Bool)

/-- The identifier of the request that a task is to answer, if the request counts as running: it was
accepted and is not given up. -/
def Task.running? : Task → Option RequestId
  | .run _ call false => call.id
  | _ => none

/-- Gives a request up, if it is running. -/
def Task.giveUp : Task → Task
  | .run method call false => .run method call call.id.isSome
  | t => t

/-- A server as it stands: what it serves, where it is in its life, what it has read of a message so
far, the tasks and registrations that are open, the replies that no task has seen yet, and the
number of its next request, which starts over after the last of 32 bits. -/
structure State where
  service : Service
  phase : Phase
  reading : Reading
  input : Protocol.Framing.Input
  tasks : List Task
  registering : List Nat
  replies : List Outcome
  nextRequest : UInt32

namespace State

/-- A server that has read nothing. -/
def start (service : Service) : State :=
  ⟨service, .uninitialized, .going, .empty, [], [], [], 0⟩

/-- Puts a task behind the others. -/
def enqueue (s : State) (t : Task) : State := { s with tasks := s.tasks ++ [t] }

/-- Refuses a call, if it expects an answer. -/
def refuse (s : State) (call : Call) (cause : ResponseError) : State :=
  match call.id with
  | some id => s.enqueue (.refuse id cause)
  | none => s

/-- Accepts a call, unless a request with its identifier is running. -/
def accept (s : State) (method : Method) (call : Call) : State :=
  match call.id with
  | none => s.enqueue (.run method call false)
  | some id =>
    if s.tasks.any fun t => t.running? == some id then s.refuse call .invalidRequest
    else s.enqueue (.run method call false)

/-- Whether a method is unknown for good: names that begin with `$/` may be ignored. -/
def mayBeIgnored (name : String) : Bool := "$/".toList.isPrefixOf name.toList

/-- Decides what becomes of a call. -/
def dispatchCall (s : State) (call : Call) : State :=
  match Method.ofName call.method with
  | .unknown name =>
    if mayBeIgnored name then s else s.refuse call (.methodNotFound (some name))
  | .exit => { s with phase := .exited, tasks := s.tasks.map Task.giveUp }
  | .initializeServer =>
    if s.phase = .uninitialized then
      { s.accept .initializeServer call with phase := .initializing }
    else s.refuse call .invalidRequest
  | .shutdown =>
    if s.phase = .initialized then { s.accept .shutdown call with phase := .shutDown }
    else s.refuse call s.phase.refusal
  | method =>
    if s.phase = .initialized then s.accept method call else s.refuse call s.phase.refusal

/-- Hands an outcome to the registration that waits for it. -/
def dispatchReply (s : State) (id : RequestId) (outcome : Outcome) : State :=
  match s.registering.find? fun n : Nat => id = .number n with
  | some n =>
    { s with registering := s.registering.erase n, replies := s.replies ++ [outcome] }
  | none => s

/-- Decides what becomes of a message. -/
def dispatch (s : State) (m : Message) : State :=
  if s.phase = .exited then { s with reading := .stalled }
  else
    match m with
    | .call call => s.dispatchCall call
    | .reply id outcome => s.dispatchReply id outcome

end State

end KatakanaLsp.Server
