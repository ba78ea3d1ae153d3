import KatakanaLsp.Proofs.Wire.Drain
import KatakanaLsp.Proofs.Wire.Recording
import KatakanaLsp.Wire.Transport

/-!
# The log of a watched transport

A watched transport is polled in any order: to read, to write, to flush, to shut down. `Call` is one
such poll and `Traffic` what polls bring across the bare transport: the octets that ready reads have
put behind what the caller's buffer held, and the octets that ready writes have taken. Everything
here is stated of an arbitrary transport, so that every way of cutting a stream, of taking part of
what is offered, of waiting and of failing is among them.

The link between polls and traffic is one step lemma:

> `Watched.call_tracks`: in a poll, the log gains for each direction the messages that the traffic
> of that direction completes, and the frame buffer keeps what draining leaves.

It holds in every state whose frame buffers are settled (`Settled`), which polls preserve. Since a
buffer that is drained early gives what it would have given later (`feed_append`), the step lemma
adds up over a run:

> `Watched.calls_track`: over any sequence of polls, each direction of the log is the batch reading
> of all traffic of that direction.

Neither direction occurs in what is said about the other.
-/

namespace KatakanaLsp.Wire

open Files (Tree Path Location)

/-! ## Messages in a stream -/

/-- The message that a body is, in its canonical form, if it is JSON. -/
def messageOf? (body : String) : Option Json := (Json.parse? body.toList).map Json.canonical

theorem takeMessages_eq (b : Bytes) :
    takeMessages b = ((drain b).1.filterMap messageOf?, (drain b).2) := rfl

/-- A frame buffer from which everything complete has been taken. -/
def Settled (buffer : Bytes) : Prop := drain buffer = ([], buffer)

theorem settled_nil : Settled [] :=
  drain_of_unfinished rfl

theorem settled_feed (buffer data : Bytes) : Settled (feed buffer data).2 :=
  drain_rest (buffer ++ data)

/-- Nothing is found in a settled buffer before more octets come. -/
theorem feed_nil {buffer : Bytes} (h : Settled buffer) : feed buffer [] = ([], buffer) := by
  rw [feed, List.append_nil, takeMessages_eq, h]
  rfl

/-- Feeding two stretches of octets one after the other is feeding both at once. -/
theorem feed_append (buffer first second : Bytes) :
    feed buffer (first ++ second) =
      ((feed buffer first).1 ++ (feed (feed buffer first).2 second).1,
        (feed (feed buffer first).2 second).2) := by
  simp only [feed, takeMessages_eq]
  rw [← List.append_assoc, drain_append (buffer ++ first), List.filterMap_append]

/-! ## Messages of one direction -/

/-- The messages that went in a direction. -/
def messages (d : Direction) (passages : List Passage) : List Json :=
  passages.filterMap fun p => if p.direction = d then some p.message else none

theorem messages_append (d : Direction) (first second : List Passage) :
    messages d (first ++ second) = messages d first ++ messages d second :=
  List.filterMap_append

@[simp] theorem messages_nil (d : Direction) : messages d [] = [] := rfl

@[simp] theorem messages_same (d : Direction) (ms : List Json) :
    messages d (ms.map (⟨d, ·⟩)) = ms := by
  have hsome : (fun p : Passage => if p.direction = d then some p.message else none) ∘ (⟨d, ·⟩)
      = some := by
    funext m
    exact if_pos rfl
  rw [messages, List.filterMap_map, hsome, List.filterMap_some]

@[simp] theorem messages_other {d e : Direction} (h : d ≠ e) (ms : List Json) :
    messages e (ms.map (⟨d, ·⟩)) = [] := by
  simp [messages, h]

theorem mem_messages {p : Passage} {ps : List Passage} (h : p ∈ ps) :
    p.message ∈ messages p.direction ps :=
  List.mem_filterMap.mpr ⟨p, h, if_pos rfl⟩

/-- The passages of a direction are its messages. -/
theorem filter_direction (d : Direction) (ps : List Passage) :
    ps.filter (·.direction = d) = (messages d ps).map (⟨d, ·⟩) := by
  induction ps with
  | nil => rfl
  | cons p ps ih =>
    obtain ⟨e, m⟩ := p
    by_cases h : e = d
    · subst h
      rw [List.filter_cons_of_pos (by simp), ih]
      simp [messages]
    · rw [List.filter_cons_of_neg (by simpa using h), ih]
      simp [messages, h]

/-- Where nothing went out, what came in is all there is. -/
theorem eq_map_of_messages {ps : List Passage} (h : messages .outgoing ps = []) :
    ps = (messages .incoming ps).map (⟨.incoming, ·⟩) := by
  have hnone := filter_direction .outgoing ps
  rw [h, List.map_nil, List.filter_eq_nil_iff] at hnone
  rw [← filter_direction, List.filter_eq_self.mpr]
  intro p hp
  have hnot := hnone p hp
  cases hd : p.direction with
  | incoming => rfl
  | outgoing => simp [hd] at hnot

/-! ## Polls -/

/-- A poll, as its caller makes it. -/
inductive Call where
  | read (buffer : ReadBuffer)
  | write (data : Bytes)
  | flush
  | shutdown
  deriving DecidableEq, Repr

/-- The octets that have come across a transport in each direction. -/
structure Traffic where
  arrived : Bytes
  left : Bytes
  deriving DecidableEq, Repr

/-- First some traffic, then more. -/
def Traffic.append (first second : Traffic) : Traffic :=
  ⟨first.arrived ++ second.arrived, first.left ++ second.left⟩

variable {ε σ : Type}

/-- What a poll to read delivers: if it is ready, what stands behind the octets that the buffer held
before. -/
def delivered (buffer : ReadBuffer) : Poll ε Unit × ReadBuffer × σ → Bytes
  | (.ready (), after, _) => after.filled.drop buffer.filled.length
  | _ => []

/-- What a poll to write takes: if it is ready, as many of the octets offered as it says. -/
def accepted (data : Bytes) : Poll ε Nat × σ → Bytes
  | (.ready n, _) => data.take n
  | _ => []

namespace Transport

/-- A poll of the bare transport: its state afterwards, and the traffic. -/
def call (T : Transport ε σ) (s : σ) : Call → σ × Traffic
  | .read buffer => ((T.read s buffer).2.2, ⟨delivered buffer (T.read s buffer), []⟩)
  | .write data => ((T.write s data).2, ⟨[], accepted data (T.write s data)⟩)
  | .flush => ((T.flush s).2, ⟨[], []⟩)
  | .shutdown => ((T.shutdown s).2, ⟨[], []⟩)

/-- Polls of the bare transport, one after another. -/
def calls (T : Transport ε σ) (s : σ) : List Call → σ × Traffic
  | [] => (s, ⟨[], []⟩)
  | c :: cs =>
    let first := T.call s c
    let others := T.calls first.1 cs
    (others.1, first.2.append others.2)

end Transport

namespace Watched

/-- A watched transport whose log is on and whose frame buffers are settled. -/
structure Live (w : Watched σ) : Prop where
  logging : w.logging = true
  arriving : Settled w.arriving
  leaving : Settled w.leaving

/-- A step from one state to another that logs messages has tracked traffic if each frame buffer was
fed the octets of its direction, and the log got what was found. -/
structure Tracks (w : Watched σ) (traffic : Traffic) (w' : Watched σ) (passages : List Passage) :
    Prop where
  logging : w'.logging = true
  arriving : feed w.arriving traffic.arrived = (messages .incoming passages, w'.arriving)
  leaving : feed w.leaving traffic.left = (messages .outgoing passages, w'.leaving)

/-- What has tracked traffic can track more. -/
theorem Tracks.live {w w' : Watched σ} {traffic : Traffic} {passages : List Passage}
    (h : Tracks w traffic w' passages) : w'.Live := by
  refine ⟨h.logging, ?_, ?_⟩
  · have := settled_feed w.arriving traffic.arrived
    rwa [h.arriving] at this
  · have := settled_feed w.leaving traffic.left
    rwa [h.leaving] at this

/-- Where no traffic comes and no buffer changes, nothing is there to track: feeding nothing to a
settled buffer finds nothing. -/
theorem Live.tracks_nothing {w w' : Watched σ} (hw : w.Live) (hlog : w'.logging = w.logging)
    (hin : w'.arriving = w.arriving) (hout : w'.leaving = w.leaving) :
    Tracks w ⟨[], []⟩ w' [] := by
  refine ⟨?_, ?_, ?_⟩
  · rw [hlog, hw.logging]
  · rw [hin, feed_nil hw.arriving, messages_nil]
  · rw [hout, feed_nil hw.leaving, messages_nil]

/-- Tracking adds up, since feeding does. -/
theorem Tracks.append {w w' w'' : Watched σ} {first second : Traffic} {ps qs : List Passage}
    (h : Tracks w first w' ps) (h' : Tracks w' second w'' qs) :
    Tracks w (first.append second) w'' (ps ++ qs) := by
  refine ⟨h'.logging, ?_, ?_⟩
  · rw [Traffic.append, feed_append, h.arriving, h'.arriving, messages_append]
  · rw [Traffic.append, feed_append, h.leaving, h'.leaving, messages_append]

/-- A poll of the watched transport: its state afterwards, and the messages for the log. -/
def call (T : Transport ε σ) (w : Watched σ) : Call → Watched σ × List Passage
  | .read buffer => ((w.read T buffer).2.2.1, (w.read T buffer).2.2.2)
  | .write data => (w.write T data).2
  | .flush => ((w.flush T).2, [])
  | .shutdown => ((w.shutdown T).2, [])

/-- Polls of the watched transport, one after another. -/
def calls (T : Transport ε σ) (w : Watched σ) : List Call → Watched σ × List Passage
  | [] => (w, [])
  | c :: cs =>
    let first := call T w c
    let others := calls T first.1 cs
    (others.1, first.2 ++ others.2)

/-- A poll of the watched transport does to the transport what a bare poll does. -/
theorem inner_call (T : Transport ε σ) (w : Watched σ) (c : Call) :
    (call T w c).1.inner = (T.call w.inner c).1 := by
  cases c with
  | read buffer =>
    rcases hr : T.read w.inner buffer with ⟨result, after, inner⟩
    cases hl : w.logging <;> cases result <;> simp [call, read, Transport.call, hr, hl]
    split <;> rfl
  | write data =>
    rcases hw : T.write w.inner data with ⟨result, inner⟩
    cases hl : w.logging <;> cases result <;> simp [call, write, Transport.call, hw, hl]
  | flush => rfl
  | shutdown => rfl

theorem inner_calls (T : Transport ε σ) (w : Watched σ) (cs : List Call) :
    (calls T w cs).1.inner = (T.calls w.inner cs).1 := by
  induction cs generalizing w with
  | nil => rfl
  | cons c cs ih =>
    show (calls T (call T w c).1 cs).1.inner = (T.calls (T.call w.inner c).1 cs).1
    rw [ih, inner_call]

/-- **One poll tracks its own traffic.** A poll that is not ready brings none. -/
theorem call_tracks (T : Transport ε σ) {w : Watched σ} (hw : w.Live) (c : Call) :
    Tracks w (T.call w.inner c).2 (call T w c).1 (call T w c).2 := by
  have hlog := hw.logging
  have hin := feed_nil hw.arriving
  have hout := feed_nil hw.leaving
  cases c with
  | read buffer =>
    rcases hr : T.read w.inner buffer with ⟨result, after, inner⟩
    cases result with
    | ready _ =>
      by_cases hfresh : after.filled.length ≤ buffer.filled.length
      · -- Nothing has been put into the caller's buffer.
        have hnothing : Tracks w ⟨[], []⟩ { w with inner := inner } [] :=
          hw.tracks_nothing rfl rfl rfl
        simpa [call, read, Transport.call, delivered, hr, hlog, hfresh,
          List.drop_eq_nil_of_le hfresh] using hnothing
      · -- Only the incoming side is fed; its messages are all there is in the log.
        refine ⟨?_, ?_, ?_⟩
        · simp [call, read, hr, hlog, hfresh]
        · simp [call, read, Transport.call, delivered, hr, hlog, hfresh]
        · simp [call, read, Transport.call, hr, hlog, hout, hfresh]
    | pending =>
      simp only [call, read, Transport.call, delivered, hr, hlog]
      exact hw.tracks_nothing hlog.symm rfl rfl
    | failed cause =>
      simp only [call, read, Transport.call, delivered, hr, hlog]
      exact hw.tracks_nothing hlog.symm rfl rfl
  | write data =>
    rcases hr : T.write w.inner data with ⟨result, inner⟩
    cases result with
    | ready n =>
      -- What was taken counts, not what was offered.
      refine ⟨?_, ?_, ?_⟩
      · simp [call, write, hr, hlog]
      · simp [call, write, Transport.call, hr, hlog, hin]
      · simp [call, write, Transport.call, accepted, hr, hlog]
    | pending =>
      simp only [call, write, Transport.call, accepted, hr, hlog]
      exact hw.tracks_nothing hlog.symm rfl rfl
    | failed cause =>
      simp only [call, write, Transport.call, accepted, hr, hlog]
      exact hw.tracks_nothing hlog.symm rfl rfl
  | flush => exact hw.tracks_nothing rfl rfl rfl
  | shutdown => exact hw.tracks_nothing rfl rfl rfl

/-- **A run of polls tracks all of its traffic.** -/
theorem calls_track (T : Transport ε σ) {w : Watched σ} (hw : w.Live) (cs : List Call) :
    Tracks w (T.calls w.inner cs).2 (calls T w cs).1 (calls T w cs).2 := by
  induction cs generalizing w with
  | nil => exact hw.tracks_nothing rfl rfl rfl
  | cons c cs ih =>
    have hfirst := call_tracks T hw c
    have hothers := ih hfirst.live
    rw [inner_call] at hothers
    exact hfirst.append hothers

end Watched

/-! ## The log beside the transport -/

/-- A watched transport and the tree that its log is in. -/
structure Tap (σ : Type) where
  link : Watched σ
  tree : Tree

/-- A poll and its clock: when each message found in this poll is recorded. -/
abbrev TimedCall := Call × (Nat → Timestamp)

/-- Messages with the times that a clock gives them. -/
def timed (clock : Nat → Timestamp) (passages : List Passage) : Entries :=
  passages.mapIdx fun i p => (clock i, p)

theorem timed_passages (clock : Nat → Timestamp) (passages : List Passage) :
    (timed clock passages).map Prod.snd = passages := by
  refine List.ext_getElem (by simp [timed]) ?_
  intro i _ _
  simp [timed]

namespace Tap

/-- A poll of the watched transport, after which the messages found are recorded. -/
def call (T : Transport ε σ) (l : Logger) (s : Tap σ) (c : TimedCall) : Tap σ :=
  let polled := s.link.call T c.1
  ⟨polled.1, l.recordAll s.tree (timed c.2 polled.2)⟩

/-- Polls, one after another. -/
def calls (T : Transport ε σ) (l : Logger) (s : Tap σ) (cs : List TimedCall) : Tap σ :=
  cs.foldl (call T l) s

theorem link_calls (T : Transport ε σ) (l : Logger) (s : Tap σ) (cs : List TimedCall) :
    (calls T l s cs).link = (s.link.calls T (cs.map Prod.fst)).1 := by
  induction cs generalizing s with
  | nil => rfl
  | cons c cs ih => exact ih (call T l s c)

/-- Polls put into the log the messages that are found, and nothing else. -/
theorem content?_calls (T : Transport ε σ) (path : Path) (file : Location) (s : Tap σ)
    (cs : List TimedCall) :
    ∃ entries : Entries, entries.map Prod.snd = (s.link.calls T (cs.map Prod.fst)).2 ∧
      (calls T (.on path file) s cs).tree.content? file =
        (s.tree.content? file).map (· ++ entries.octets) := by
  induction cs generalizing s with
  | nil => exact ⟨[], rfl, by simp [calls, Entries.octets]⟩
  | cons c cs ih =>
    obtain ⟨entries, hentries, hcontent⟩ := ih (call T (.on path file) s c)
    refine ⟨timed c.2 (s.link.call T c.1).2 ++ entries, ?_, ?_⟩
    · rw [List.map_append, timed_passages, hentries]
      rfl
    · show (calls T (.on path file) (call T (.on path file) s c) cs).tree.content? file = _
      rw [hcontent, call, Logger.content?_recordAll, Option.map_map]
      congr 1
      funext content
      simp [Entries.octets]

end Tap

/-- **A log written while octets stream is the log of the whole.** After any polls in any order, the
transport is where bare polls would have brought it, each frame buffer is what draining all octets
of its direction at once leaves, the log has gained for each direction the messages of that one
drain, in order, and every further poll only adds entries at its end. -/
theorem tap_calls_eq_batch (T : Transport ε σ) (path : Path) (file : Location) (inner : σ)
    (tree : Tree) (calls : List TimedCall) :
    let s := Tap.calls T (.on path file) ⟨.start inner true, tree⟩ calls
    let passed := (T.calls inner (calls.map Prod.fst)).2
    s.link.inner = (T.calls inner (calls.map Prod.fst)).1 ∧
      s.link.arriving = (drain passed.arrived).2 ∧ s.link.leaving = (drain passed.left).2 ∧
      (∃ entries : Entries,
        s.tree.content? file = (tree.content? file).map (· ++ entries.octets) ∧
        messages .incoming (entries.map Prod.snd) =
          (drain passed.arrived).1.filterMap messageOf? ∧
        messages .outgoing (entries.map Prod.snd) =
          (drain passed.left).1.filterMap messageOf?) ∧
      ∀ next : TimedCall, ∃ gained : Entries,
        (s.call T (.on path file) next).tree.content? file =
          (s.tree.content? file).map (· ++ gained.octets) := by
  intro s passed
  have hlive : (Watched.start inner true).Live := ⟨rfl, settled_nil, settled_nil⟩
  obtain ⟨-, harrived, hleft⟩ := Watched.calls_track T hlive (calls.map Prod.fst)
  have hlink : s.link = ((Watched.start inner true).calls T (calls.map Prod.fst)).1 :=
    Tap.link_calls T _ _ calls
  -- Both buffers start empty, so feeding them is draining.
  have hfeed (b : Bytes) : feed [] b = ((drain b).1.filterMap messageOf?, (drain b).2) := by
    rw [feed, List.nil_append, takeMessages_eq]
  rw [← hlink] at harrived hleft
  replace harrived := (hfeed passed.arrived).symm.trans harrived
  replace hleft := (hfeed passed.left).symm.trans hleft
  obtain ⟨entries, hentries, hcontent⟩ :=
    Tap.content?_calls T path file ⟨.start inner true, tree⟩ calls
  refine ⟨?_, ?_, ?_, ⟨entries, hcontent, ?_, ?_⟩, ?_⟩
  · rw [hlink, Watched.inner_calls]
    rfl
  · exact (congrArg Prod.snd harrived).symm
  · exact (congrArg Prod.snd hleft).symm
  · rw [hentries]
    exact (congrArg Prod.fst harrived).symm
  · rw [hentries]
    exact (congrArg Prod.fst hleft).symm
  · intro next
    exact ⟨_, Logger.content?_recordAll path file s.tree _⟩

end KatakanaLsp.Wire
