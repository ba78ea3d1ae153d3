import KatakanaLsp.Wire.Transport

/-!
# A transport in memory

`Pipe` holds the octets that wait to be read and those that were written. A script can make the next
poll fail or find nothing, and can limit how many octets each poll to write takes.
-/

namespace KatakanaLsp.Wire

/-- What a script lets the next poll come to. -/
inductive Disturbance (ε : Type) where
  | pending
  | failed (cause : ε)
  deriving DecidableEq, Repr

/-- A disturbed poll. -/
def Disturbance.poll {ε α : Type} : Disturbance ε → Poll ε α
  | .pending => .pending
  | .failed cause => .failed cause

/-- A transport in memory. -/
structure Pipe (ε : Type) where
  input : Bytes
  ended : Bool
  output : Bytes
  accepts : List Nat
  disturbance : Option (Disturbance ε)
  flushes : Nat
  shutdowns : Nat

namespace Pipe

variable {ε : Type}

/-- A transport that nothing has passed through. -/
def empty : Pipe ε := ⟨[], false, [], [], none, 0, 0⟩

/-- Delivers what fits. With nothing to deliver, the poll has to wait, unless the input has
ended. -/
def read (p : Pipe ε) (b : ReadBuffer) : Poll ε Unit × ReadBuffer × Pipe ε :=
  match p.disturbance with
  | some d => (d.poll, b, { p with disturbance := none })
  | none =>
    if p.input.isEmpty then (if p.ended then .ready () else .pending, b, p)
    else (.ready (), b.fill (p.input.take b.room), { p with input := p.input.drop b.room })

/-- Takes as many octets as the script says, or all when it says nothing more. -/
def write (p : Pipe ε) (data : Bytes) : Poll ε Nat × Pipe ε :=
  match p.disturbance with
  | some d => (d.poll, { p with disturbance := none })
  | none =>
    let n := match p.accepts with
      | [] => data.length
      | n :: _ => min n data.length
    (.ready n, { p with output := p.output ++ data.take n, accepts := p.accepts.drop 1 })

/-- A poll that moves nothing. -/
def idle (p : Pipe ε) : Poll ε Unit × Pipe ε :=
  match p.disturbance with
  | some d => (d.poll, { p with disturbance := none })
  | none => (.ready (), p)

/-- Counts a flush. -/
def flush (p : Pipe ε) : Poll ε Unit × Pipe ε := { p with flushes := p.flushes + 1 }.idle

/-- Counts a shutdown. -/
def shutdown (p : Pipe ε) : Poll ε Unit × Pipe ε := { p with shutdowns := p.shutdowns + 1 }.idle

/-- A pipe as a transport. -/
def transport : Transport ε (Pipe ε) := ⟨read, write, flush, shutdown⟩

end Pipe

end KatakanaLsp.Wire
