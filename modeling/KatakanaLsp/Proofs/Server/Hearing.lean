import KatakanaLsp.Proofs.Server.Enacting
import KatakanaLsp.Proofs.Server.Recorded
import KatakanaLsp.Proofs.Wire.Conversation

/-!
# The wire log has what the server hears

What a client writes reaches the server in pieces, one in each step of a session, and passes the
wire log on the way. The log takes bodies from a piece and knows nothing of the server; the server
takes bodies as well, and dispatches the messages in them. An invariant ties the two together:

> `Session.Hearing`: both readers have taken the frames that have arrived in full, nothing waits in
> the transport, and the server goes on reading.

A step keeps the invariant, as long as no `exit` has brought the server to a standstill, and in it
the log gains what the server dispatches (`Session.Hearing.step`). A server at a standstill reads
nothing more, and then the log gains nothing more from the client (`Session.Poised.deaf`). So

> `Session.log_follows_dispatch`: step by step, the messages that the wire log gains from the client
> are those that the server dispatches.
-/

namespace KatakanaLsp.Server

open Protocol (Message)
open Protocol.Framing (Input)
open Wire (Abreast ClientFrame Passage Pipe Watched messages)

namespace State

/-! ## Dispatching messages -/

/-- Dispatches messages in order. -/
def dispatchAll (s : State) (ms : List Message) : State := ms.foldl dispatch s

/-- The server goes on reading, or has come to a standstill after an exit. -/
def Attentive (s : State) : Prop := s.reading = .going ∨ s.reading = .stalled ∧ s.phase = .exited

/-- A message changes nothing about reading, unless it comes behind an exit. -/
theorem reading_dispatch {s : State} (h : s.phase ≠ .exited) (m : Message) :
    (s.dispatch m).reading = s.reading := by
  have hsame : s.dispatch m = (s.dispatch m).beside s := dispatch_beside h s m
  rw [hsame]
  rfl

/-- Behind an exit a message brings reading to a standstill. -/
theorem dispatch_exited (s : State) (h : s.phase = .exited) (m : Message) :
    s.dispatch m = { s with reading := .stalled } := by
  unfold dispatch
  rw [if_pos h]

theorem Attentive.dispatch {s : State} (h : s.Attentive) (m : Message) :
    (s.dispatch m).Attentive := by
  by_cases hexit : s.phase = .exited
  · rw [s.dispatch_exited hexit]
    exact Or.inr ⟨rfl, hexit⟩
  · rcases h with hgoing | ⟨-, hexited⟩
    · exact Or.inl ((reading_dispatch hexit m).trans hgoing)
    · exact absurd hexited hexit

/-- The message in the body of a frame is dispatched. -/
theorem Attentive.readBody {s : State} (h : s.Attentive) (f : ClientFrame) :
    s.readBody f.body = (s.dispatch f.message.2, .none) := by
  rcases h with hgoing | ⟨hstalled, hexited⟩
  · exact readBody_of_some hgoing (Option.some_get f.taken).symm
  · -- a server at a standstill passes the body over, and dispatching would leave it as it is
    have hsame : s.dispatch f.message.2 = s := by
      rw [s.dispatch_exited hexited, ← hstalled]
    rw [State.readBody, if_pos (by rw [hstalled]; decide), hsame]

/-- **The messages in the bodies of frames are dispatched in order.** -/
theorem Attentive.readBodies {s : State} (h : s.Attentive) (frames : List ClientFrame) :
    s.readBodies (frames.map (·.body)) =
      (s.dispatchAll (frames.map (·.message.2)), .none) := by
  induction frames generalizing s with
  | nil => rfl
  | cons f frames ih =>
    rw [List.map_cons, State.readBodies, h.readBody]
    dsimp only
    rw [ih (h.dispatch _)]
    rfl

/-! ## Reading a piece -/

/-- Dispatching has nothing to do with what is left unread. -/
theorem dispatch_input (s : State) (i : Input) (m : Message) :
    { s with input := i }.dispatch m = { s.dispatch m with input := i } := by
  by_cases hexit : s.phase = .exited
  · have hother : { s with input := i }.dispatch m = { s with input := i, reading := .stalled } :=
      dispatch_exited { s with input := i } hexit m
    rw [hother, s.dispatch_exited hexit]
  · have hother : { s with input := i }.dispatch m = (s.dispatch m).beside { s with input := i } :=
      dispatch_beside hexit { s with input := i } m
    have hsame : s.dispatch m = (s.dispatch m).beside s := dispatch_beside hexit s m
    rw [hother, hsame]
    rfl

theorem dispatchAll_input (s : State) (i : Input) (ms : List Message) :
    { s with input := i }.dispatchAll ms = { s.dispatchAll ms with input := i } := by
  induction ms generalizing s with
  | nil => rfl
  | cons m ms ih =>
    show ({ s with input := i }.dispatch m).dispatchAll ms = _
    rw [dispatch_input, ih]
    rfl

/-- **What is read of a piece is dispatched**, and the rest of it is left. -/
theorem read_of_drain {s : State} (hs : s.reading = .going) {data : Bytes}
    {heard : List ClientFrame} {j : Input}
    (hdrain : Protocol.Framing.drain (s.input.extend data) = (heard.map (·.body), .waiting j))
    (hnothing : data = [] → heard = [] ∧ j = s.input) :
    ∃ i, s.read data false = ({ s.dispatchAll (heard.map (·.message.2)) with input := i }, .none) ∧
      ((s.dispatchAll (heard.map (·.message.2))).reading = .going → i = j) := by
  have hends (t : State) : t.readEnd false = (t, .none) := rfl
  have hreads : s.read data false = ((s.readMore data).1, (s.readMore data).2 ++ .none) := by
    rw [read, if_neg (not_not_intro hs)]
    simp only [hends]
  by_cases hdata : data = []
  · obtain ⟨rfl, rfl⟩ := hnothing hdata
    subst hdata
    refine ⟨s.input, ?_, fun _ => rfl⟩
    have hsame : s.input.extend [] = s.input := s.input.extend_nil
    rw [hreads, readMore, if_pos List.isEmpty_nil, hsame]
    rfl
  · have hattentive : { s with input := s.input.extend data }.Attentive := Or.inl hs
    have hbodies := hattentive.readBodies heard
    rw [dispatchAll_input] at hbodies
    have hmore : s.readMore data = { s with input := s.input.extend data }.readInput false := by
      rw [readMore, if_neg (by simpa using hdata)]
    rw [hreads, hmore]
    simp only [readInput, hdrain, hbodies]
    by_cases hgoing : (s.dispatchAll (heard.map (·.message.2))).reading = .going
    · refine ⟨j, ?_, fun _ => rfl⟩
      rw [if_neg (not_not_intro hgoing)]
      rfl
    · refine ⟨s.input.extend data, ?_, fun h => absurd h hgoing⟩
      rw [if_pos hgoing]
      rfl

/-- Working changes nothing about the reading, or about what is left unread. -/
theorem work_beside (s : State) : s.work.1.reading = s.reading ∧ s.work.1.input = s.input := by
  obtain ⟨events, h⟩ := s.enacts_work
  exact ⟨h.reading, h.input⟩

/-- What a turn leaves of the reading is what reading leaves. -/
theorem turn_beside (s : State) (data : Bytes) (atEnd : Bool) :
    (s.turn data atEnd).1.reading = (s.read data atEnd).1.reading ∧
      (s.turn data atEnd).1.input = (s.read data atEnd).1.input :=
  (s.read data atEnd).1.work_beside

end State

namespace Session

/-! ## The incoming side of the transport -/

/-- A session that can hear: the wire log is on, and the transport does what it is asked. -/
structure Poised (s : Session) : Prop where
  live : s.link.Live
  willing : Willing s.link.inner

/-- Reading takes all that waits, through the frame buffer. -/
theorem readAll_incoming {link : Watched (Pipe Empty)} (hlive : link.Live)
    (hwilling : Willing link.inner) :
    (readAll link).1 = link.inner.input ∧
      (readAll link).2.1.inner = { link.inner with input := [] } ∧
      Wire.feed link.arriving link.inner.input =
        (messages .incoming (readAll link).2.2, (readAll link).2.1.arriving) := by
  let buffer : Wire.ReadBuffer := ⟨[], link.inner.input.length⟩
  have hpoll : (Pipe.transport.read link.inner buffer).2.1.filled = link.inner.input ∧
      Wire.delivered buffer (Pipe.transport.read link.inner buffer) = link.inner.input ∧
      (Pipe.transport.read link.inner buffer).2.2 = { link.inner with input := [] } := by
    show (link.inner.read buffer).2.1.filled = _ ∧
      Wire.delivered buffer (link.inner.read buffer) = _ ∧ (link.inner.read buffer).2.2 = _
    obtain ⟨⟨input, ended, output, accepts, disturbance, flushes, shutdowns⟩, logging, arriving,
      leaving⟩ := link
    obtain rfl : disturbance = none := hwilling.disturbance
    cases input with
    | nil => cases ended <;> exact ⟨rfl, rfl, rfl⟩
    | cons o rest => simp [Pipe.read, Wire.delivered, buffer, Wire.ReadBuffer.fill]
  obtain ⟨hfilled, hdelivered, htaken⟩ := hpoll
  have hinner : (readAll link).2.1.inner = (Pipe.transport.read link.inner buffer).2.2 :=
    Watched.inner_call Pipe.transport link (.read buffer)
  have hfed :
      Wire.feed link.arriving (Wire.delivered buffer (Pipe.transport.read link.inner buffer)) =
        (messages .incoming (readAll link).2.2, (readAll link).2.1.arriving) :=
    (Watched.call_tracks Pipe.transport hlive (.read buffer)).arriving
  have hafter := (Watched.read_result Pipe.transport link buffer).2
  refine ⟨?_, by rw [hinner, htaken], by rw [← hfed, hdelivered]⟩
  rw [← hfilled, ← hafter]
  rfl

/-- Writing changes nothing on the incoming side. -/
theorem writeAll_incoming {link : Watched (Pipe Empty)} (hlive : link.Live)
    (hwilling : Willing link.inner) (spelling : Spelling) (ms : List Json) :
    (writeAll spelling link ms).1.Live ∧
      (writeAll spelling link ms).1.inner =
        { link.inner with output := link.inner.output ++ ms.flatMap (frameOf spelling) } ∧
      (writeAll spelling link ms).1.arriving = link.arriving ∧
      messages .incoming (writeAll spelling link ms).2 = [] := by
  obtain ⟨hafter, hinner⟩ := writeAll_willing hlive hwilling spelling ms
  have harriving := (Watched.calls_track Pipe.transport hlive (writesOf spelling ms)).arriving
  rw [hwilling.calls, Wire.feed_nil hlive.arriving] at harriving
  obtain ⟨hnone, hsame⟩ := Prod.mk.inj harriving
  rw [writeAll_eq] at hafter hinner ⊢
  exact ⟨hafter, hinner, hsame.symm, hnone.symm⟩

/-- On the incoming side, a step does what listening does. -/
theorem step_incoming {s : Session} {data : Bytes} {atEnd : Bool}
    (hlive : (s.listen data atEnd).2.1.Live) (hwilling : Willing (s.listen data atEnd).2.1.inner) :
    (s.step data atEnd).1.link.Live ∧
      (∃ output, (s.step data atEnd).1.link.inner =
        { (s.listen data atEnd).2.1.inner with output := output }) ∧
      (s.step data atEnd).1.link.arriving = (s.listen data atEnd).2.1.arriving ∧
      messages .incoming (s.step data atEnd).2.passages =
        messages .incoming (s.listen data atEnd).2.2 := by
  obtain ⟨hafter, hinner, harriving, hnone⟩ := writeAll_incoming hlive hwilling s.spelling
    (s.server.turn (s.listen data atEnd).1 (s.listen data atEnd).2.1.inner.ended).2.messages
  refine ⟨hafter, ⟨_, hinner⟩, harriving, ?_⟩
  rw [step_eq]
  show messages .incoming ((s.listen data atEnd).2.2 ++ _) = _
  rw [Wire.messages_append, hnone, List.append_nil]

/-- What is heard in a step, with the frames that arrive. -/
structure HearsNow (s : Session) (piece : Bytes) (heard : List ClientFrame) : Prop where
  /-- The wire log gains the messages in the frames. -/
  logged : messages .incoming (s.step piece false).2.passages = heard.map (·.message.1.canonical)
  /-- The server dispatches them, and does nothing else while it reads. -/
  dispatched : ∃ i, s.server.read (s.listen piece false).1 false =
    ({ s.server.dispatchAll (heard.map (·.message.2)) with input := i }, .none)

/-! ## A server that does not read -/

/-- Once reading is over, nothing is heard, and so it stays. -/
theorem Poised.deaf {s : Session} (h : s.Poised) (hdeaf : s.server.reading ≠ .going)
    (piece : Bytes) :
    s.HearsNow piece [] ∧ (s.step piece false).1.Poised ∧
      (s.step piece false).1.server.reading ≠ .going := by
  have hlisten : s.listen piece false = ([], arrive s.link piece false, []) := if_neg hdeaf
  have hread (data : Bytes) (atEnd : Bool) : s.server.read data atEnd = (s.server, .none) :=
    if_pos hdeaf
  have hlive : (s.listen piece false).2.1.Live := by
    rw [hlisten]
    exact live_arrive h.live piece false
  have hwilling : Willing (s.listen piece false).2.1.inner := by
    rw [hlisten]
    exact h.willing.arrive piece false
  obtain ⟨hafter, ⟨output, hinner⟩, -, hlogged⟩ := step_incoming hlive hwilling
  refine ⟨⟨?_, s.server.input, hread _ _⟩, ⟨hafter, ?_⟩, ?_⟩
  · rw [hlogged, hlisten]
    rfl
  · rw [hinner]
    exact hwilling.written output
  · have hturn := (s.server.turn_beside (s.listen piece false).1
      (s.listen piece false).2.1.inner.ended).1
    rw [hread] at hturn
    exact hturn.trans_ne hdeaf

/-! ## A server that reads -/

/-- A session in which what a client writes has been heard so far: both readers have taken the
frames that have arrived in full. -/
structure Hearing (frames : List ClientFrame) (s : Session) (arrived : Bytes) (n : Nat) : Prop where
  poised : s.Poised
  going : s.server.reading = .going
  taken : s.link.inner.input = []
  unended : s.link.inner.ended = false
  abreast : Abreast arrived ((frames.take n).map (·.body)) s.server.input s.link.arriving
  prompt : ∃ rest, arrived = (frames.take n).flatMap ClientFrame.octets ++ rest ∧
    ∀ f, frames[n]? = some f → rest.length < f.octets.length

variable {frames : List ClientFrame} {s : Session} {arrived : Bytes} {n : Nat}

theorem hearing_startIn (spelling : Spelling) (service : Service) (frames : List ClientFrame) :
    (startIn spelling service true).Hearing frames [] 0 where
  poised := ⟨⟨rfl, Wire.settled_nil, Wire.settled_nil⟩, rfl, rfl⟩
  going := rfl
  taken := rfl
  unended := rfl
  abreast := Wire.abreast_nil
  prompt := ⟨[], rfl, fun f _ => List.length_pos_iff.mpr f.octets_ne_nil⟩

/-- The transport hands over the piece that arrives, through the frame buffer. -/
theorem Hearing.listen (h : s.Hearing frames arrived n) (piece : Bytes) :
    (s.listen piece false).1 = piece ∧ (s.listen piece false).2.1.Live ∧
      (s.listen piece false).2.1.inner = s.link.inner ∧
      Wire.feed s.link.arriving piece =
        (messages .incoming (s.listen piece false).2.2, (s.listen piece false).2.1.arriving) := by
  have hlive := live_arrive h.poised.live piece false
  have hwilling := h.poised.willing.arrive piece false
  have hinput : (arrive s.link piece false).inner.input = piece := by
    show s.link.inner.input ++ piece = piece
    rw [h.taken, List.nil_append]
  obtain ⟨hoctets, hinner, hfed⟩ := readAll_incoming hlive hwilling
  rw [hinput] at hoctets hfed
  have hlisten : s.listen piece false = readAll (arrive s.link piece false) := if_pos h.going
  rw [hlisten]
  refine ⟨hoctets, (readAll_outgoing hlive hwilling).1, hinner.trans ?_, hfed⟩
  -- nothing waited before, and the input has not ended
  show { s.link.inner with input := [], ended := s.link.inner.ended || false } = s.link.inner
  rw [Bool.or_false, ← h.taken]

/-- What both readers take of the piece that arrives are the frames that are complete now. -/
theorem Hearing.frames_taken (h : s.Hearing frames arrived n) {piece : Bytes}
    (hstream : arrived ++ piece <+: frames.flatMap ClientFrame.octets) :
    ∃ heard n' part i, frames.take n' = frames.take n ++ heard ∧
      Wire.feed s.link.arriving piece = (heard.map (·.message.1.canonical), part) ∧
      Protocol.Framing.drain (s.server.input.extend piece) = (heard.map (·.body), .waiting i) ∧
      Abreast (arrived ++ piece) ((frames.take n').map (·.body)) i part ∧
      arrived ++ piece = (frames.take n').flatMap ClientFrame.octets ++ part ∧
      ∀ f, frames[n']? = some f → part.length < f.octets.length := by
  obtain ⟨n', part, i, -, hwhole, hshort, hnow⟩ := Wire.abreast_of_prefix hstream
  obtain ⟨fresh, hbodies, hlog, hserver⟩ := h.abreast.step hnow
  have hlater : frames.take n <+: frames.take n' := by
    refine List.prefix_of_prefix_length_le (List.take_prefix ..) (List.take_prefix ..) ?_
    have hlength := congrArg List.length hbodies
    simp only [List.length_append, List.length_map] at hlength
    omega
  obtain ⟨heard, hheard⟩ := hlater
  have hfresh : fresh = heard.map (·.body) := by
    rw [← hheard, List.map_append] at hbodies
    exact (List.append_cancel_left hbodies).symm
  subst hfresh
  refine ⟨heard, n', part, i, hheard.symm, ?_, hserver, hnow, hwhole, hshort⟩
  rw [Wire.feed, Wire.takeMessages_eq, hlog,
    Wire.filterMap_bodies heard fun _ hbody => hbody, Wire.filterMap_entryOf?]

/-- **In a step the wire log gains what the server dispatches**, and if the server goes on reading,
so does the hearing. -/
theorem Hearing.step (h : s.Hearing frames arrived n) {piece : Bytes}
    (hstream : arrived ++ piece <+: frames.flatMap ClientFrame.octets) :
    ∃ heard n', frames.take n' = frames.take n ++ heard ∧ s.HearsNow piece heard ∧
      (s.step piece false).1.Poised ∧ ((s.step piece false).1.server.reading = .going →
        (s.step piece false).1.Hearing frames (arrived ++ piece) n') := by
  obtain ⟨heard, n', part, i, htaken, hmessages, hserver, hnow, hprompt⟩ := h.frames_taken hstream
  obtain ⟨hoctets, hlive, hlink, hfed⟩ := h.listen piece
  obtain ⟨hlogged, hbuffer⟩ := Prod.mk.inj (hfed.symm.trans hmessages)
  have hwilling : Willing (s.listen piece false).2.1.inner := by
    rw [hlink]
    exact h.poised.willing
  obtain ⟨hafter, ⟨output, hinner⟩, harriving, hpassages⟩ := step_incoming hlive hwilling
  rw [hlink] at hinner
  have hpoised : (s.step piece false).1.Poised :=
    ⟨hafter, hinner ▸ h.poised.willing.written output⟩
  -- with no octets, both readers stay where they are
  have hnothing : piece = [] → heard = [] ∧ i = s.server.input := by
    rintro rfl
    rw [List.append_nil] at hnow
    obtain ⟨hsame, hrest⟩ := Prod.mk.inj (h.abreast.server.symm.trans hnow.server)
    rw [htaken, List.map_append] at hsame
    refine ⟨?_, (Protocol.Framing.Rest.waiting.inj hrest).symm⟩
    exact List.map_eq_nil_iff.mp (List.append_right_eq_self.mp hsame.symm)
  obtain ⟨j, hread, hleft⟩ := State.read_of_drain h.going hserver hnothing
  have hturn := s.server.turn_beside piece false
  rw [hread] at hturn
  have hafterwards : (s.step piece false).1.server = (s.server.turn piece false).1 := by
    rw [step_eq]
    show (s.server.turn (s.listen piece false).1 (s.listen piece false).2.1.inner.ended).1 = _
    rw [hlink, h.unended, hoctets]
  refine ⟨heard, n', htaken, ⟨hpassages.trans hlogged, j, ?_⟩, hpoised, fun hgoing => ?_⟩
  · rw [hoctets]
    exact hread
  · rw [hafterwards] at hgoing
    obtain rfl := hleft (hturn.1.symm.trans hgoing)
    refine ⟨hpoised, ?_, ?_, ?_, ?_, part, hprompt⟩
    · rw [hafterwards]
      exact hgoing
    · rw [hinner]
      exact h.taken
    · rw [hinner]
      exact h.unended
    · rw [hafterwards, hturn.2, harriving, hbuffer]
      exact hnow

/-! ## Runs -/

/-- What is heard in each step of a session in which pieces arrive. -/
inductive Hears : Session → List Bytes → List (List ClientFrame) → Prop where
  | nil (s : Session) : Hears s [] []
  | cons {s : Session} {piece : Bytes} {pieces : List Bytes} {heard : List ClientFrame}
      {others : List (List ClientFrame)} (now : s.HearsNow piece heard)
      (later : Hears (s.step piece false).1 pieces others) :
      Hears s (piece :: pieces) (heard :: others)

/-- A session in which pieces arrive, after all of them. -/
def afterPieces (s : Session) (pieces : List Bytes) : Session := (s.run (pieces.map (·, false))).1

theorem Poised.deaf_run {s : Session} (h : s.Poised) (hdeaf : s.server.reading ≠ .going)
    (pieces : List Bytes) :
    s.Hears pieces (pieces.map fun _ => []) ∧ (s.afterPieces pieces).server.reading ≠ .going := by
  induction pieces generalizing s with
  | nil => exact ⟨.nil s, hdeaf⟩
  | cons piece pieces ih =>
    obtain ⟨hnow, hpoised, hstill⟩ := h.deaf hdeaf piece
    obtain ⟨hlater, hend⟩ := ih hpoised hstill
    exact ⟨.cons hnow hlater, hend⟩

/-- So it is over a run: what is heard are the frames that follow, one after another. -/
theorem Hearing.run (h : s.Hearing frames arrived n) {pieces : List Bytes}
    (hstream : arrived ++ pieces.flatten <+: frames.flatMap ClientFrame.octets) :
    ∃ heard n', s.Hears pieces heard ∧ frames.take n' = frames.take n ++ heard.flatten ∧
      ((s.afterPieces pieces).server.reading = .going →
        (s.afterPieces pieces).Hearing frames (arrived ++ pieces.flatten) n') := by
  induction pieces generalizing s arrived n with
  | nil =>
    refine ⟨[], n, .nil s, (List.append_nil _).symm, fun _ => ?_⟩
    rw [List.flatten_nil, List.append_nil]
    exact h
  | cons piece pieces ih =>
    rw [List.flatten_cons, ← List.append_assoc] at hstream ⊢
    obtain ⟨heard, n', htaken, hnow, hpoised, hnext⟩ :=
      h.step ((List.prefix_append _ _).trans hstream)
    by_cases hgoing : (s.step piece false).1.server.reading = .going
    · obtain ⟨others, n'', hlater, hrest, hend⟩ := ih (hnext hgoing) hstream
      refine ⟨heard :: others, n'', .cons hnow hlater, ?_, hend⟩
      rw [hrest, htaken, List.flatten_cons, List.append_assoc]
    · obtain ⟨hlater, hend⟩ := hpoised.deaf_run hgoing pieces
      refine ⟨heard :: pieces.map fun _ => [], n', .cons hnow hlater, ?_, fun h => absurd h hend⟩
      rw [htaken, List.flatten_cons, List.flatten_eq_nil_iff.mpr (by simp), List.append_nil]

/-- **The wire log follows what the server dispatches.** Let a client write frames, and let them
arrive in any pieces, one in each step. In each step the wire log gains from the client the messages
that the server dispatches in it, and in all steps together the messages of the frames, from the
first one on. As long as the server goes on reading, these are all frames that have arrived in
full. How the server spells what it says has no part in this. -/
theorem log_follows_dispatch (spelling : Spelling) (service : Service) {frames : List ClientFrame}
    {pieces : List Bytes} (hstream : pieces.flatten <+: frames.flatMap ClientFrame.octets) :
    let start := Session.startIn spelling service true
    ∃ heard, start.Hears pieces heard ∧ heard.flatten <+: frames ∧
      ((start.afterPieces pieces).server.reading = .going →
        ∃ rest, pieces.flatten = heard.flatten.flatMap ClientFrame.octets ++ rest ∧
          ∀ f, frames[heard.flatten.length]? = some f → rest.length < f.octets.length) := by
  intro start
  obtain ⟨heard, n, hhears, htaken, hend⟩ := (hearing_startIn spelling service frames).run hstream
  rw [List.take_zero, List.nil_append] at htaken
  refine ⟨heard, hhears, htaken ▸ List.take_prefix .., fun hgoing => ?_⟩
  obtain ⟨rest, hwhole, hshort⟩ := (hend hgoing).prompt
  refine ⟨rest, htaken ▸ hwhole, fun f hf => hshort f ?_⟩
  -- where another frame follows, as many were taken as had arrived
  obtain ⟨hlt, -⟩ := List.getElem?_eq_some_iff.mp hf
  have hcount : heard.flatten.length = n := by
    rw [← htaken, List.length_take] at hlt ⊢
    omega
  rw [← hcount]
  exact hf

end Session

end KatakanaLsp.Server
