import KatakanaLsp.Json.Parser
import KatakanaLsp.Wire.Entry
import KatakanaLsp.Wire.Frame

/-!
# Watching a transport

A transport is polled: it is ready with a result, not ready yet, or fails. `Watched` is a transport
with the wire log beside it. Every poll goes to the transport as it is and comes back as it is;
what the transport has delivered, or has taken, goes through a frame buffer of its direction, and
the messages found there are passages for the log. While the log is off, nothing is buffered.
-/

namespace KatakanaLsp.Wire

/-- The answer to a poll, where `ε` says why it can fail. -/
inductive Poll (ε α : Type) where
  | ready (value : α)
  | pending
  | failed (cause : ε)
  deriving DecidableEq, Repr

/-- A buffer to read into: what it holds already and the room behind that. -/
structure ReadBuffer where
  filled : Bytes
  room : Nat
  deriving DecidableEq, Repr

/-- The buffer with octets put behind what it holds. -/
def ReadBuffer.fill (b : ReadBuffer) (data : Bytes) : ReadBuffer :=
  ⟨b.filled ++ data, b.room - data.length⟩

/-- A transport with states `σ`. -/
structure Transport (ε σ : Type) where
  read : σ → ReadBuffer → Poll ε Unit × ReadBuffer × σ
  write : σ → Bytes → Poll ε Nat × σ
  flush : σ → Poll ε Unit × σ
  shutdown : σ → Poll ε Unit × σ

/-! ## From octets to messages -/

/-- The complete messages at the front of a buffer, in order, and what is left. A body that is not
JSON is taken and forgotten. -/
def takeMessages (b : Bytes) : List Json × Bytes :=
  let (bodies, rest) := drain b
  (bodies.filterMap fun body => (Json.parse? body.toList).map Json.canonical, rest)

/-- Adds octets to a frame buffer and takes the messages that are complete now. -/
def feed (buffer data : Bytes) : List Json × Bytes := takeMessages (buffer ++ data)

/-! ## The watched transport -/

/-- A transport, whether its messages are logged, and a frame buffer for each direction. -/
structure Watched (σ : Type) where
  inner : σ
  logging : Bool
  arriving : Bytes
  leaving : Bytes

/-- A transport that is watched from now on. -/
def Watched.start {σ : Type} (inner : σ) (logging : Bool) : Watched σ := ⟨inner, logging, [], []⟩

namespace Watched

variable {ε σ : Type}

/-- Polls for octets. -/
def read (T : Transport ε σ) (w : Watched σ) (buffer : ReadBuffer) :
    Poll ε Unit × ReadBuffer × Watched σ × List Passage :=
  let (result, after, inner) := T.read w.inner buffer
  let w := { w with inner := inner }
  match w.logging, result with
  | true, .ready () =>
    let fresh := after.filled.drop buffer.filled.length
    if fresh.isEmpty then (result, after, w, [])
    else
      let (messages, rest) := feed w.arriving fresh
      (result, after, { w with arriving := rest }, messages.map (⟨.incoming, ·⟩))
  | _, _ => (result, after, w, [])

/-- Polls to write octets. -/
def write (T : Transport ε σ) (w : Watched σ) (data : Bytes) :
    Poll ε Nat × Watched σ × List Passage :=
  let (result, inner) := T.write w.inner data
  let w := { w with inner := inner }
  match w.logging, result with
  | true, .ready n =>
    let (messages, rest) := feed w.leaving (data.take n)
    (result, { w with leaving := rest }, messages.map (⟨.outgoing, ·⟩))
  | _, _ => (result, w, [])

/-- Polls to flush. -/
def flush (T : Transport ε σ) (w : Watched σ) : Poll ε Unit × Watched σ :=
  let (result, inner) := T.flush w.inner
  (result, { w with inner := inner })

/-- Polls to shut down. -/
def shutdown (T : Transport ε σ) (w : Watched σ) : Poll ε Unit × Watched σ :=
  let (result, inner) := T.shutdown w.inner
  (result, { w with inner := inner })

end Watched

end KatakanaLsp.Wire
