import KatakanaLsp.Proofs.Wire.Streaming

/-!
# A watched transport is transparent

Nobody can tell a watched transport from a bare one: not its callers, who are told the same, and not
the transport, which is polled the same. `Watched.transport` makes a watched transport a transport
in its own right, so that both can be asked the same questions; `Transport.noting` makes a transport
write down how it is polled. Everything is read off one step, in any state, whatever the frame
buffers hold:

> `Watched.call_transport`, `Watched.reply_transport`: a poll of the watched transport is a poll of
> the one inside it.

So it makes no difference to a run of polls, nor to a caller that chooses its polls by what it has
been told (`Caller.run_transport`).

The other way round, the log notices only polls that are ready to read or to write:

> `Watched.unnoticed_of_quiet`, `Watched.unnoticed_of_off`: any other poll, and with the log off
> every poll, leaves the frame buffers and the log as they are.

What a read does to the caller's buffer is up to the transport, within the rules for reading
(`Transport.Lawful`). Transports that follow a script keep to them (`Script.lawful`).
-/

namespace KatakanaLsp.Wire

open Files (Tree Path Location)

/-! ## What callers are told -/

/-- What the caller of a poll is told: the result, and after a poll to read the buffer as well. -/
inductive Reply (ε : Type) where
  | read (result : Poll ε Unit) (after : ReadBuffer)
  | written (result : Poll ε Nat)
  | flushed (result : Poll ε Unit)
  | shutDown (result : Poll ε Unit)
  deriving DecidableEq, Repr

/-- A reply that no octets have moved with: to a flush, to a shutdown, or to a poll that is not
ready. -/
def Reply.IsQuiet {ε : Type} : Reply ε → Prop
  | .read result _ => result ≠ .ready ()
  | .written result => ∀ n, result ≠ .ready n
  | .flushed _ => True
  | .shutDown _ => True

variable {ε σ : Type}

namespace Transport

/-- The reply to a poll. -/
def reply (T : Transport ε σ) (s : σ) : Call → Reply ε
  | .read buffer => .read (T.read s buffer).1 (T.read s buffer).2.1
  | .write data => .written (T.write s data).1
  | .flush => .flushed (T.flush s).1
  | .shutdown => .shutDown (T.shutdown s).1

/-- The replies to polls, one after another. -/
def replies (T : Transport ε σ) (s : σ) : List Call → List (Reply ε)
  | [] => []
  | c :: cs => T.reply s c :: T.replies (T.call s c).1 cs

/-- The rules for reading: a poll that is ready puts octets behind what the buffer holds, no more
than there is room for; one that is not leaves the buffer alone. -/
structure Lawful (T : Transport ε σ) : Prop where
  ready : ∀ s buffer, (T.read s buffer).1 = .ready () →
    ∃ data, data.length ≤ buffer.room ∧ (T.read s buffer).2.1 = buffer.fill data
  waiting : ∀ s buffer, (T.read s buffer).1 ≠ .ready () → (T.read s buffer).2.1 = buffer

theorem fill_nil (buffer : ReadBuffer) : buffer.fill [] = buffer := by
  rw [ReadBuffer.fill, List.append_nil, List.length_nil, Nat.sub_zero]

/-- A lawful read puts what it delivers behind what the buffer holds, and does nothing else. -/
theorem Lawful.after_eq {T : Transport ε σ} (hT : T.Lawful) (s : σ) (buffer : ReadBuffer) :
    (delivered buffer (T.read s buffer)).length ≤ buffer.room ∧
      (T.read s buffer).2.1 = buffer.fill (delivered buffer (T.read s buffer)) := by
  have hready := hT.ready s buffer
  have hwaiting := hT.waiting s buffer
  rcases hr : T.read s buffer with ⟨result, after, s'⟩
  rw [hr] at hready hwaiting
  cases result with
  | ready _ =>
    obtain ⟨data, hroom, hafter⟩ := hready rfl
    have hdata : delivered buffer ((.ready () : Poll ε Unit), after, s') = data := by
      show after.filled.drop buffer.filled.length = data
      rw [show after = _ from hafter, ReadBuffer.fill, List.drop_left]
    rw [hdata]
    exact ⟨hroom, hafter⟩
  | pending => exact ⟨Nat.zero_le _, (hwaiting nofun).trans (fill_nil buffer).symm⟩
  | failed cause => exact ⟨Nat.zero_le _, (hwaiting nofun).trans (fill_nil buffer).symm⟩

/-! ## How a transport is polled -/

/-- The transport, writing down every poll that reaches it. -/
def noting (T : Transport ε σ) : Transport ε (σ × List Call) where
  read s buffer :=
    let (result, after, inner) := T.read s.1 buffer
    (result, after, inner, s.2 ++ [.read buffer])
  write s data :=
    let (result, inner) := T.write s.1 data
    (result, inner, s.2 ++ [.write data])
  flush s :=
    let (result, inner) := T.flush s.1
    (result, inner, s.2 ++ [.flush])
  shutdown s :=
    let (result, inner) := T.shutdown s.1
    (result, inner, s.2 ++ [.shutdown])

theorem call_noting (T : Transport ε σ) (s : σ × List Call) (c : Call) :
    (T.noting.call s c).1 = ((T.call s.1 c).1, s.2 ++ [c]) := by
  cases c <;> rfl

/-- Writing polls down changes nothing about them. -/
theorem calls_noting (T : Transport ε σ) (s : σ × List Call) (cs : List Call) :
    (T.noting.calls s cs).1 = ((T.calls s.1 cs).1, s.2 ++ cs) := by
  induction cs generalizing s with
  | nil =>
    show s = (s.1, s.2 ++ [])
    rw [List.append_nil]
  | cons c cs ih =>
    show (T.noting.calls (T.noting.call s c).1 cs).1 = _
    rw [call_noting, ih, List.append_assoc]
    rfl

end Transport

/-! ## The watched transport as a transport -/

namespace Watched

/-- A watched transport, polled like any other. What is found for the log is left out. -/
def transport (T : Transport ε σ) : Transport ε (Watched σ) where
  read w buffer :=
    let (result, after, w, _) := w.read T buffer
    (result, after, w)
  write w data :=
    let (result, w, _) := w.write T data
    (result, w)
  flush w := w.flush T
  shutdown w := w.shutdown T

/-- A poll to read says what the bare transport says. -/
theorem read_result (T : Transport ε σ) (w : Watched σ) (buffer : ReadBuffer) :
    (w.read T buffer).1 = (T.read w.inner buffer).1 ∧
      (w.read T buffer).2.1 = (T.read w.inner buffer).2.1 := by
  rcases hr : T.read w.inner buffer with ⟨result, after, inner⟩
  unfold read
  rw [hr]
  dsimp only
  split
  · split <;> exact ⟨rfl, rfl⟩
  · exact ⟨rfl, rfl⟩

/-- A poll to write says what the bare transport says. -/
theorem write_result (T : Transport ε σ) (w : Watched σ) (data : Bytes) :
    (w.write T data).1 = (T.write w.inner data).1 := by
  rcases hr : T.write w.inner data with ⟨result, inner⟩
  unfold write
  rw [hr]
  dsimp only
  split <;> rfl

/-- **A poll of a watched transport gets the reply of the bare transport.** -/
theorem reply_transport (T : Transport ε σ) (w : Watched σ) (c : Call) :
    (transport T).reply w c = T.reply w.inner c := by
  cases c with
  | read buffer =>
    obtain ⟨hresult, hafter⟩ := read_result T w buffer
    show Reply.read (w.read T buffer).1 (w.read T buffer).2.1 = _
    rw [hresult, hafter]
    rfl
  | write data =>
    show Reply.written (w.write T data).1 = _
    rw [write_result]
    rfl
  | flush => rfl
  | shutdown => rfl

/-- **A poll of a watched transport brings the same octets across as one of the bare transport.** -/
theorem call_transport (T : Transport ε σ) (w : Watched σ) (c : Call) :
    (transport T).call w c = ((call T w c).1, (T.call w.inner c).2) := by
  cases c with
  | read buffer =>
    obtain ⟨hresult, hafter⟩ := read_result T w buffer
    rcases hr : T.read w.inner buffer with ⟨result, after, inner⟩
    rcases hw : w.read T buffer with ⟨result', after', w', ps⟩
    rw [hr, hw] at hresult hafter
    obtain rfl : result' = result := hresult
    obtain rfl : after' = after := hafter
    simp only [Transport.call, transport, call, hr, hw]
    cases result' <;> rfl
  | write data =>
    have hresult := write_result T w data
    rcases hr : T.write w.inner data with ⟨result, inner⟩
    rcases hw : w.write T data with ⟨result', w', ps⟩
    rw [hr, hw] at hresult
    obtain rfl : result' = result := hresult
    simp only [Transport.call, transport, call, hr, hw]
    cases result' <;> rfl
  | flush => rfl
  | shutdown => rfl

theorem replies_transport (T : Transport ε σ) (w : Watched σ) (cs : List Call) :
    (transport T).replies w cs = T.replies w.inner cs := by
  induction cs generalizing w with
  | nil => rfl
  | cons c cs ih =>
    show (transport T).reply w c :: (transport T).replies ((transport T).call w c).1 cs =
      T.reply w.inner c :: T.replies (T.call w.inner c).1 cs
    rw [reply_transport, call_transport, ih, inner_call]

theorem calls_transport (T : Transport ε σ) (w : Watched σ) (cs : List Call) :
    (transport T).calls w cs = ((calls T w cs).1, (T.calls w.inner cs).2) := by
  induction cs generalizing w with
  | nil => rfl
  | cons c cs ih =>
    have hothers := ih (call T w c).1
    rw [inner_call] at hothers
    show (((transport T).calls ((transport T).call w c).1 cs).1,
      ((transport T).call w c).2.append ((transport T).calls ((transport T).call w c).1 cs).2) = _
    rw [call_transport, show (transport T).calls _ cs = _ from hothers]
    rfl

/-! ## Leaving the log out -/

/-- The transport with the log off and nothing in the frame buffers. -/
def unlogged (w : Watched σ) : Watched σ := .start w.inner false

theorem read_unlogged (T : Transport ε σ) (w : Watched σ) (buffer : ReadBuffer) :
    w.unlogged.read T buffer =
      ((w.read T buffer).1, (w.read T buffer).2.1, (w.read T buffer).2.2.1.unlogged, []) := by
  obtain ⟨hresult, hafter⟩ := read_result T w buffer
  have hinner : (w.read T buffer).2.2.1.inner = (T.read w.inner buffer).2.2 :=
    inner_call T w (.read buffer)
  rw [hresult, hafter, unlogged, unlogged, hinner]
  rfl

theorem write_unlogged (T : Transport ε σ) (w : Watched σ) (data : Bytes) :
    w.unlogged.write T data = ((w.write T data).1, (w.write T data).2.1.unlogged, []) := by
  have hresult := write_result T w data
  have hinner : (w.write T data).2.1.inner = (T.write w.inner data).2 :=
    inner_call T w (.write data)
  rw [hresult, unlogged, unlogged, hinner]
  rfl

/-! ## Polls that the log does not notice -/

/-- A poll that changes nothing but the transport inside. -/
def Unnoticed (T : Transport ε σ) (w : Watched σ) (c : Call) : Prop :=
  call T w c = ({ w with inner := (T.call w.inner c).1 }, [])

/-- The log does not notice polls that move no octets. -/
theorem unnoticed_of_quiet {T : Transport ε σ} {w : Watched σ} {c : Call}
    (h : (T.reply w.inner c).IsQuiet) : Unnoticed T w c := by
  obtain ⟨s, logging, arriving, leaving⟩ := w
  unfold Unnoticed
  cases c with
  | read buffer =>
    have hresult : (T.read s buffer).1 ≠ .ready () := h
    rcases hr : T.read s buffer with ⟨result, after, inner⟩
    rw [hr] at hresult
    cases result with
    | ready _ => exact absurd rfl hresult
    | pending => cases logging <;> simp only [call, read, Transport.call, hr]
    | failed cause => cases logging <;> simp only [call, read, Transport.call, hr]
  | write data =>
    have hresult : ∀ n, (T.write s data).1 ≠ .ready n := h
    rcases hr : T.write s data with ⟨result, inner⟩
    rw [hr] at hresult
    cases result with
    | ready n => exact absurd rfl (hresult n)
    | pending => cases logging <;> simp only [call, write, Transport.call, hr]
    | failed cause => cases logging <;> simp only [call, write, Transport.call, hr]
  | flush => rfl
  | shutdown => rfl

/-- A log that is off notices nothing. -/
theorem unnoticed_of_off (T : Transport ε σ) {w : Watched σ} (h : w.logging = false) (c : Call) :
    Unnoticed T w c := by
  unfold Unnoticed
  cases c with
  | read buffer =>
    rcases hr : T.read w.inner buffer with ⟨result, after, inner⟩
    simp only [call, read, Transport.call, hr, h]
  | write data =>
    rcases hr : T.write w.inner data with ⟨result, inner⟩
    simp only [call, write, Transport.call, hr, h]
  | flush => rfl
  | shutdown => rfl

end Watched

/-- What the log does not notice does not change its file. -/
theorem Tap.call_of_unnoticed {T : Transport ε σ} (l : Logger) {s : Tap σ} {c : TimedCall}
    (h : s.link.Unnoticed T c.1) :
    s.call T l c = { s with link := { s.link with inner := (T.call s.link.inner c.1).1 } } := by
  have hcall : s.link.call T c.1 = _ := h
  unfold Tap.call
  rw [hcall]
  rfl

theorem Tap.calls_of_off (T : Transport ε σ) {s : Tap σ} (h : s.link.logging = false)
    (cs : List TimedCall) :
    s.calls T .off cs =
      { s with link := { s.link with inner := (T.calls s.link.inner (cs.map Prod.fst)).1 } } := by
  induction cs generalizing s with
  | nil => rfl
  | cons c cs ih =>
    have hfirst := call_of_unnoticed .off (Watched.unnoticed_of_off T h c.1)
    show calls T .off (s.call T .off c) cs = _
    rw [hfirst]
    exact ih h

/-! ## Callers -/

/-- A caller with states `κ`. Its state says which poll it makes next, if any; what it is told
brings it to another state, and makes it put out what it does. -/
structure Caller (ε κ β : Type) where
  next : κ → Option Call
  told : κ → Reply ε → κ × List β

/-- At most `n` polls of a caller: its state and the transport's afterwards, and its output. -/
def Caller.run {κ β : Type} (C : Caller ε κ β) (T : Transport ε σ) :
    Nat → κ → σ → (κ × σ) × List β
  | 0, k, s => ((k, s), [])
  | n + 1, k, s =>
    match C.next k with
    | none => ((k, s), [])
    | some c =>
      let (k', out) := C.told k (T.reply s c)
      let (last, more) := C.run T n k' (T.call s c).1
      (last, out ++ more)

/-- **No caller can tell that it is watched**, not even one that goes by what it has been told when
it chooses its next poll. -/
theorem Caller.run_transport {κ β : Type} (C : Caller ε κ β) (T : Transport ε σ) (n : Nat) (k : κ)
    (w : Watched σ) :
    let watched := C.run (Watched.transport T) n k w
    let bare := C.run T n k w.inner
    watched.1.1 = bare.1.1 ∧ watched.1.2.inner = bare.1.2 ∧ watched.2 = bare.2 := by
  induction n generalizing k w with
  | zero => exact ⟨rfl, rfl, rfl⟩
  | succ n ih =>
    unfold run
    cases C.next k with
    | none => exact ⟨rfl, rfl, rfl⟩
    | some c =>
      obtain ⟨hcaller, hinner, hout⟩ := ih (C.told k (T.reply w.inner c)).1 (w.call T c).1
      rw [Watched.inner_call] at hcaller hinner hout
      dsimp only
      rw [Watched.reply_transport, Watched.call_transport]
      exact ⟨hcaller, hinner, congrArg _ hout⟩

/-! ## Transparency -/

/-- **A watched transport is transparent.** Take any transport that keeps to the rules for reading,
any polls in any order, any content of the frame buffers, and the log on or off. The callers get the
replies of the bare transport and the same octets come across; the transport gets the same polls
with the same octets in them, each once and in order, and ends where bare polls leave it. A read
puts what the bare transport delivers behind what the caller's buffer held and keeps that as it was.
A poll that moves no octets changes neither the frame buffers nor the log; and while the log is off,
no poll does. -/
theorem tap_calls_transparent (T : Transport ε σ) (hT : T.Lawful) (l : Logger) (inner : σ)
    (arriving leaving : Bytes) (tree : Tree) (calls : List TimedCall) :
    let polls := calls.map Prod.fst
    let w : Watched σ := ⟨inner, l.isOn, arriving, leaving⟩
    let s := Tap.calls T l ⟨w, tree⟩ calls
    let bare := (T.calls inner polls).1
    (Watched.transport T).replies w polls = T.replies inner polls ∧
      (Watched.transport T).calls w polls = (s.link, (T.calls inner polls).2) ∧
      s.link.inner = bare ∧
      (Watched.calls T.noting ⟨(inner, []), l.isOn, arriving, leaving⟩ polls).1.inner =
        (bare, polls) ∧
      (∀ buffer : ReadBuffer,
        (delivered buffer (T.read bare buffer)).length ≤ buffer.room ∧
        (s.link.read T buffer).2.1 = buffer.fill (delivered buffer (T.read bare buffer))) ∧
      (∀ next : TimedCall, (T.reply bare next.1).IsQuiet →
        s.call T l next = { s with link := { s.link with inner := (T.call bare next.1).1 } }) ∧
      (l = .off → s.link.arriving = arriving ∧ s.link.leaving = leaving ∧ s.tree = tree) := by
  intro polls w s bare
  have hlink : s.link = (w.calls T polls).1 := Tap.link_calls T l ⟨w, tree⟩ calls
  have hinner : s.link.inner = bare := by
    rw [hlink, Watched.inner_calls]
  refine ⟨Watched.replies_transport T w polls, ?_, hinner, ?_, ?_, ?_, ?_⟩
  · rw [Watched.calls_transport, hlink]
  · rw [Watched.inner_calls, Transport.calls_noting]
    rfl
  · intro buffer
    obtain ⟨hroom, hafter⟩ := hT.after_eq bare buffer
    refine ⟨hroom, ?_⟩
    rw [(Watched.read_result T s.link buffer).2, hinner, hafter]
  · intro next hquiet
    rw [← hinner] at hquiet ⊢
    exact Tap.call_of_unnoticed l (Watched.unnoticed_of_quiet hquiet)
  · rintro rfl
    have hall : s = _ := Tap.calls_of_off T (s := ⟨w, tree⟩) rfl calls
    rw [hall]
    exact ⟨rfl, rfl, rfl⟩

/-! ## Transports that follow a script -/

/-- A script: what the polls of each kind come to, one after another, and the octets written. -/
structure Script (ε : Type) where
  reads : List (Poll ε Bytes)
  writes : List (Poll ε Nat)
  flushes : List (Poll ε Unit)
  shutdowns : List (Poll ε Unit)
  written : Bytes
  deriving DecidableEq

namespace Script

/-- The next poll to read. What does not fit into the buffer waits; ready with nothing is the end of
the input. -/
def read (s : Script ε) (buffer : ReadBuffer) : Poll ε Unit × ReadBuffer × Script ε :=
  match s.reads with
  | [] => (.pending, buffer, s)
  | .pending :: rest => (.pending, buffer, { s with reads := rest })
  | .failed cause :: rest => (.failed cause, buffer, { s with reads := rest })
  | .ready data :: rest =>
    let later := if data.length ≤ buffer.room then rest else .ready (data.drop buffer.room) :: rest
    (.ready (), buffer.fill (data.take buffer.room), { s with reads := later })

/-- The next poll to write. -/
def write (s : Script ε) (data : Bytes) : Poll ε Nat × Script ε :=
  match s.writes with
  | [] => (.pending, s)
  | .pending :: rest => (.pending, { s with writes := rest })
  | .failed cause :: rest => (.failed cause, { s with writes := rest })
  | .ready n :: rest =>
    (.ready (min n data.length), { s with writes := rest, written := s.written ++ data.take n })

/-- A script as a transport. -/
def transport : Transport ε (Script ε) where
  read := read
  write := write
  flush s := (s.flushes.headD .pending, { s with flushes := s.flushes.tail })
  shutdown s := (s.shutdowns.headD .pending, { s with shutdowns := s.shutdowns.tail })

/-- Whatever a script says, the rules for reading are kept. -/
theorem lawful : (transport : Transport ε (Script ε)).Lawful := by
  refine ⟨?_, ?_⟩
  · intro s buffer h
    change (read s buffer).1 = _ at h
    show ∃ data, data.length ≤ buffer.room ∧ (read s buffer).2.1 = buffer.fill data
    unfold read at h ⊢
    split at h
    · cases h
    · cases h
    · cases h
    · exact ⟨_, List.length_take_le _ _, rfl⟩
  · intro s buffer h
    change (read s buffer).1 ≠ _ at h
    show (read s buffer).2.1 = buffer
    unfold read at h ⊢
    split at h
    · rfl
    · rfl
    · rfl
    · exact absurd rfl h

end Script

/-- A script in which everything happens: reads that fill the buffer, find the end, wait and fail;
writes that take a part or nothing, wait and fail. -/
def eventful : Script String where
  reads := [.ready [1, 2, 3], .pending, .failed "broken", .ready []]
  writes := [.ready 2, .pending, .ready 0, .failed "broken"]
  flushes := [.ready (), .pending]
  shutdowns := [.failed "broken"]
  written := []

/-- Polls for it, some with octets in the buffer already. -/
def eventfulCalls : List TimedCall :=
  let polls : List Call :=
    [.read ⟨[9], 2⟩, .write [4, 5, 6], .flush, .read ⟨[9, 8], 5⟩, .write [6], .read ⟨[], 5⟩,
      .write [6], .flush, .read ⟨[9], 5⟩, .write [6], .read ⟨[], 5⟩, .shutdown]
  polls.map fun c => (c, fun _ => ⟨2024, 1, 2, 3, 4, 5, 6⟩)

theorem tap_calls_eventful :
    let polls := eventfulCalls.map Prod.fst
    let s := Tap.calls Script.transport (.on (.ofString "wire.log") [[119]])
      ⟨⟨eventful, true, [7], [7]⟩, .empty⟩ eventfulCalls
    (Script.transport : Transport String (Script String)).Lawful ∧
      (Watched.transport Script.transport).replies ⟨eventful, true, [7], [7]⟩ polls =
        [.read (.ready ()) ⟨[9, 1, 2], 0⟩, .written (.ready 2), .flushed (.ready ()),
          .read (.ready ()) ⟨[9, 8, 3], 4⟩, .written .pending, .read .pending ⟨[], 5⟩,
          .written (.ready 0), .flushed .pending, .read (.failed "broken") ⟨[9], 5⟩,
          .written (.failed "broken"), .read (.ready ()) ⟨[], 5⟩, .shutDown (.failed "broken")] ∧
      s.link.inner = ⟨[], [], [], [], [4, 5]⟩ := by
  intro polls s
  obtain ⟨hreplies, -, hinner, -⟩ := tap_calls_transparent Script.transport Script.lawful
    (.on (.ofString "wire.log") [[119]]) eventful [7] [7] .empty eventfulCalls
  exact ⟨Script.lawful, hreplies.trans rfl, hinner.trans rfl⟩

end KatakanaLsp.Wire
