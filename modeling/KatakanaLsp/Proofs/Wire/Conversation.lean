import KatakanaLsp.Proofs.Wire.ClientFrame
import KatakanaLsp.Wire.Memory

/-!
# One conversation, read twice

The octets of a client pass the wire log and then the server, and each cuts them into bodies on its
own. Let a client write frames as clients write them, let the last of them be cut off, and let the
stream arrive in any pieces. Then both have taken the same bodies at every point:

> `Abreast`: behind the octets that have arrived, both readers have come to rest, and have taken the
> same bodies on the way.

This holds at every point of such a stream (`abreast_of_prefix`), because each reader alone takes
the frames that have arrived in full and nothing of the next. Since neither reader takes anything
else for having stopped in between, they also take the same from each single piece
(`Abreast.step`), and by induction from all (`Abreast.pieces`).

> `log_abreast_of_server`: what the polls of a watched transport put into the wire log are, poll by
> poll, the messages that the server reads from the same octets.
-/

namespace KatakanaLsp.Wire

open Protocol.Framing (Input readPieces)

/-! ## Frames that have arrived in full -/

/-- The wire log takes whole frames in front of anything. -/
theorem drain_frames (frames : List ClientFrame) (later : Bytes) :
    drain (frames.flatMap ClientFrame.octets ++ later) =
      ((frames.map ClientFrame.body).map String.ofList ++ (drain later).1, (drain later).2) := by
  induction frames with
  | nil => rfl
  | cons f frames ih =>
    rw [List.flatMap_cons, List.append_assoc, drain_of_frame (f.front_octets _), ih,
      Utf8.toStringLossy_encode]
    rfl

/-- The server takes whole frames in front of anything. -/
theorem drain_strict_frames (frames : List ClientFrame) (later : Bytes) :
    Protocol.Framing.drain ⟨frames.flatMap ClientFrame.octets ++ later, none⟩ =
      (frames.map ClientFrame.body ++ (Protocol.Framing.drain ⟨later, none⟩).1,
        (Protocol.Framing.drain ⟨later, none⟩).2) := by
  induction frames with
  | nil => rfl
  | cons f frames ih =>
    rw [List.flatMap_cons, List.append_assoc,
      Protocol.Framing.drain_of_body (f.next_octets _), ih]
    rfl

/-! ## Both readers at rest -/

/-- Behind the octets that have arrived, both readers are at rest with what they left, and have
taken the same bodies. -/
structure Abreast (arrived : Bytes) (bodies : List (List Char)) (i : Input) (buffer : Bytes) :
    Prop where
  log : drain arrived = (bodies.map String.ofList, buffer)
  server : Protocol.Framing.drain ⟨arrived, none⟩ = (bodies, .waiting i)

/-- Nothing has arrived. -/
theorem abreast_nil : Abreast [] [] .empty [] :=
  ⟨drain_of_unfinished rfl, Protocol.Framing.drain_of_waiting rfl⟩

/-- **At every point of a stream both readers have taken the frames that have arrived in full.** -/
theorem abreast_of_prefix {frames : List ClientFrame} {arrived : Bytes}
    (h : arrived <+: frames.flatMap ClientFrame.octets) :
    ∃ n part i, n ≤ frames.length ∧ arrived = (frames.take n).flatMap ClientFrame.octets ++ part ∧
      (∀ f, frames[n]? = some f → part.length < f.octets.length) ∧
      Abreast arrived ((frames.take n).map ClientFrame.body) i part := by
  obtain ⟨n, part, hn, rfl, hopen, hlast⟩ := exists_take_of_prefix ClientFrame.octets h
  -- neither reader takes anything of the part behind the whole frames
  have hpart : drain part = ([], part) ∧
      ∃ i, Protocol.Framing.drain ⟨part, none⟩ = ([], .waiting i) := by
    cases hnext : frames[n]? with
    | none =>
      obtain rfl := hlast (Nat.le_antisymm hn (List.getElem?_eq_none_iff.mp hnext))
      exact ⟨abreast_nil.log, _, abreast_nil.server⟩
    | some f =>
      obtain ⟨missing, hmissing, hwhole⟩ := hopen f hnext
      exact ⟨f.drain_part hwhole hmissing, f.drain_strict_part hwhole hmissing⟩
  obtain ⟨hlog, i, hserver⟩ := hpart
  refine ⟨n, part, i, hn, rfl, ?_, ?_, ?_⟩
  · intro f hf
    obtain ⟨missing, hmissing, hwhole⟩ := hopen f hf
    have := List.length_pos_iff.mpr hmissing
    rw [← hwhole, List.length_append]
    omega
  · rw [drain_frames, hlog, List.append_nil]
  · rw [drain_strict_frames, hserver, List.append_nil]

/-- Where both readers are abreast and are so again after another piece, they have taken the same
from that piece. -/
theorem Abreast.step {arrived piece buffer buffer' : Bytes} {bodies bodies' : List (List Char)}
    {i i' : Input} (h : Abreast arrived bodies i buffer)
    (h' : Abreast (arrived ++ piece) bodies' i' buffer') :
    ∃ fresh, bodies' = bodies ++ fresh ∧
      drain (buffer ++ piece) = (fresh.map String.ofList, buffer') ∧
      Protocol.Framing.drain (i.extend piece) = (fresh, .waiting i') := by
  have hserver := Protocol.Framing.drain_extend h.server piece
  rw [Input.extend, h'.server] at hserver
  obtain ⟨hbodies, hwait⟩ := Prod.mk.inj hserver
  have hlog := drain_append arrived piece
  rw [h.log, h'.log, hbodies, List.map_append] at hlog
  obtain ⟨htaken, hrest⟩ := Prod.mk.inj hlog
  refine ⟨(Protocol.Framing.drain (i.extend piece)).1, hbodies, ?_, Prod.ext rfl hwait.symm⟩
  exact Prod.ext (List.append_cancel_left htaken).symm hrest.symm

/-! ## A stream in pieces -/

/-- What the wire log takes from each piece of a stream as the pieces arrive, and what is left
behind them. -/
def takePieces (buffer : Bytes) : List Bytes → List (List String) × Bytes
  | [] => ([], buffer)
  | piece :: pieces =>
    let now := drain (buffer ++ piece)
    let later := takePieces now.2 pieces
    (now.1 :: later.1, later.2)

/-- **Piece by piece both readers take the same.** -/
theorem Abreast.pieces {frames : List ClientFrame} {arrived buffer : Bytes}
    {bodies : List (List Char)} {i : Input} (h : Abreast arrived bodies i buffer)
    {pieces : List Bytes}
    (hpieces : arrived ++ pieces.flatten <+: frames.flatMap ClientFrame.octets) :
    ∃ fresh i' buffer', readPieces (.waiting i) pieces = (fresh, .waiting i') ∧
      takePieces buffer pieces = (fresh.map (·.map String.ofList), buffer') ∧
      Abreast (arrived ++ pieces.flatten) (bodies ++ fresh.flatten) i' buffer' := by
  induction pieces generalizing arrived bodies i buffer with
  | nil => exact ⟨[], i, buffer, rfl, rfl, by simpa using h⟩
  | cons piece pieces ih =>
    rw [List.flatten_cons, ← List.append_assoc] at hpieces ⊢
    obtain ⟨n, buffer', i', -, -, -, hnow⟩ :=
      abreast_of_prefix ((List.prefix_append _ _).trans hpieces)
    obtain ⟨fresh, hbodies, hlog, hserver⟩ := h.step hnow
    obtain ⟨others, i'', buffer'', hread, htake, hend⟩ := ih hnow hpieces
    refine ⟨fresh :: others, i'', buffer'', ?_, ?_, ?_⟩
    · simp only [readPieces, Protocol.Framing.Rest.resume, hserver, hread]
    · simp only [takePieces, hlog, htake, List.map_cons]
    · rw [List.flatten_cons, ← List.append_assoc, ← hbodies]
      exact hend

/-! ## A stream in polls -/

variable {ε σ : Type}

/-- The octets that each poll of a transport brings in. -/
def Transport.arrivals (T : Transport ε σ) (s : σ) : List Call → List Bytes
  | [] => []
  | c :: cs => (T.call s c).2.arrived :: T.arrivals (T.call s c).1 cs

/-- The incoming messages that each poll of a watched transport puts into the log. -/
def Watched.logged (T : Transport ε σ) (w : Watched σ) : List Call → List (List Json)
  | [] => []
  | c :: cs => messages .incoming (w.call T c).2 :: Watched.logged T (w.call T c).1 cs

/-- Each poll logs the messages in the bodies that are taken from what it brings in. -/
theorem Watched.logged_eq (T : Transport ε σ) {w : Watched σ} (hw : w.Live) (polls : List Call) :
    w.logged T polls =
      (takePieces w.arriving (T.arrivals w.inner polls)).1.map (·.filterMap messageOf?) := by
  induction polls generalizing w with
  | nil => rfl
  | cons c cs ih =>
    have htracks := call_tracks T hw c
    obtain ⟨hlogged, hrest⟩ := Prod.mk.inj htracks.arriving
    rw [logged, ih htracks.live, inner_call, ← hlogged, ← hrest]
    rfl

/-- The message of a frame, as JSON and as the server understands it. -/
def ClientFrame.message (f : ClientFrame) : Json × Protocol.Message :=
  (Server.State.messageIn? f.body).get f.taken

theorem ClientFrame.messageOf? (f : ClientFrame) :
    messageOf? (String.ofList f.body) = some f.message.1.canonical := by
  have hmessage : Server.State.messageIn? f.body = some (f.message.1, f.message.2) :=
    (Option.some_get f.taken).symm
  rw [Wire.messageOf?, String.toList_ofList, Server.State.parse?_of_messageIn? hmessage,
    Option.map_some]

/-- What the wire log has to say of a body: the JSON of the message that the server reads in it. -/
def entryOf? (body : List Char) : Option Json :=
  (Server.State.messageIn? body).map fun p => p.1.canonical

theorem ClientFrame.entryOf? (f : ClientFrame) : entryOf? f.body = some f.message.1.canonical := by
  have hmessage : Server.State.messageIn? f.body = some f.message := (Option.some_get f.taken).symm
  rw [Wire.entryOf?, hmessage, Option.map_some]

/-- In the bodies of frames the log finds what the server does. -/
theorem filterMap_bodies (frames : List ClientFrame) {bodies : List (List Char)}
    (h : ∀ body ∈ bodies, body ∈ frames.map ClientFrame.body) :
    (bodies.map String.ofList).filterMap messageOf? = bodies.filterMap entryOf? := by
  rw [List.filterMap_map]
  apply List.filterMap_congr
  intro body hbody
  obtain ⟨f, -, rfl⟩ := List.mem_map.mp (h body hbody)
  exact f.messageOf?.trans f.entryOf?.symm

/-- The bodies of frames hold their messages. -/
theorem filterMap_entryOf? (frames : List ClientFrame) :
    (frames.map ClientFrame.body).filterMap entryOf? = frames.map (·.message.1.canonical) := by
  rw [List.filterMap_map, ← List.filterMap_eq_map]
  apply List.filterMap_congr
  intro f _
  exact f.entryOf?

theorem readPieces_take (why : Protocol.Framing.Rest) (pieces : List Bytes) (k : Nat) :
    (readPieces why (pieces.take k)).1 = (readPieces why pieces).1.take k := by
  induction pieces generalizing why k with
  | nil => simp [readPieces]
  | cons piece pieces ih =>
    cases k with
    | zero => rfl
    | succ k =>
      rw [List.take_succ_cons]
      simp only [readPieces, ih, List.take_succ_cons]

/-- If the bodies of frames are taken from the pieces of a stream, the polls that bring in the
pieces log the messages of the frames. -/
theorem Watched.logged_of_taken {frames : List ClientFrame} {fresh : List (List (List Char))}
    (hall : fresh.flatten = frames.map ClientFrame.body) (T : Transport ε σ) {w : Watched σ}
    (hw : w.Live) (polls : List Call)
    (htake : (takePieces w.arriving (T.arrivals w.inner polls)).1 =
      fresh.map (·.map String.ofList)) :
    w.logged T polls = fresh.map (·.filterMap entryOf?) ∧
      (w.logged T polls).flatten = frames.map (·.message.1.canonical) := by
  have hlogged : w.logged T polls = fresh.map (·.filterMap entryOf?) := by
    rw [Watched.logged_eq T hw, htake, List.map_map]
    apply List.map_congr_left
    intro bodies hbodies
    refine filterMap_bodies frames fun body hbody => ?_
    rw [← hall]
    exact List.mem_flatten_of_mem hbodies hbody
  refine ⟨hlogged, ?_⟩
  rw [hlogged, ← List.filterMap_flatten, hall, filterMap_entryOf?]

/-! ## The conversation -/

section Conversation

variable {frames : List ClientFrame} {last : ClientFrame} {part : Bytes} {pieces : List Bytes}

/-- What has arrived of frames and of a part of another one is the beginning of a stream. -/
theorem stream_of_part (hpart : part <+: last.octets)
    (hpieces : pieces.flatten = frames.flatMap ClientFrame.octets ++ part) :
    pieces.flatten <+: (frames ++ [last]).flatMap ClientFrame.octets := by
  obtain ⟨missing, hwhole⟩ := hpart
  refine ⟨missing, ?_⟩
  rw [hpieces, List.append_assoc, hwhole, List.flatMap_append, List.flatMap_singleton]

/-- A frame that has not arrived in full is not among those that have. -/
theorem not_taken_of_open (hpart : part <+: last.octets) (hopen : part ≠ last.octets)
    {arrived rest : Bytes} (harrived : arrived <+: frames.flatMap ClientFrame.octets ++ part)
    {n : Nat}
    (htaken : arrived = ((frames ++ [last]).take n).flatMap ClientFrame.octets ++ rest)
    (hn : n ≤ (frames ++ [last]).length) : n ≤ frames.length := by
  rw [List.length_append, List.length_singleton] at hn
  refine Nat.le_of_lt_succ (Nat.lt_of_le_of_ne hn ?_)
  rintro rfl
  -- otherwise more octets would have arrived than were sent
  have hshort : part.length < last.octets.length :=
    Nat.lt_of_le_of_ne hpart.length_le fun h => hopen (hpart.eq_of_length h)
  have hlength := harrived.length_le
  rw [htaken, List.take_of_length_le (by simp)] at hlength
  simp only [List.flatMap_append, List.flatMap_singleton, List.length_append] at hlength
  omega

/-- A stream of frames, and of a part of another one, is heard alike by the wire log and the server
as its pieces arrive. -/
structure HeardAlike (frames : List ClientFrame) (last : ClientFrame) (pieces : List Bytes) :
    Prop where
  /-- From each piece both take the same bodies. -/
  alike : (takePieces [] pieces).1 =
    (readPieces (.waiting .empty) pieces).1.map (·.map String.ofList)
  /-- The server finds no fault. -/
  faultless : ∃ i, (readPieces (.waiting .empty) pieces).2 = .waiting i
  /-- In the end, the bodies of all frames have been taken. -/
  whole : (readPieces (.waiting .empty) pieces).1.flatten = frames.map ClientFrame.body
  /-- At every point, the bodies have been taken of those frames that have arrived in full. -/
  prompt : ∀ k, ∃ n rest, n ≤ frames.length ∧
    (pieces.take k).flatten = (frames.take n).flatMap ClientFrame.octets ++ rest ∧
    (∀ f, (frames ++ [last])[n]? = some f → rest.length < f.octets.length) ∧
    ((readPieces (.waiting .empty) pieces).1.take k).flatten = (frames.take n).map ClientFrame.body
  /-- In whatever polls of whatever transport the pieces arrive, each poll logs the messages that
  the server reads in the bodies it takes from that piece, and so all messages are logged. -/
  logged : ∀ {ε σ : Type} (T : Transport ε σ) {w : Watched σ} (polls : List Call), w.Live →
    w.arriving = [] → T.arrivals w.inner polls = pieces →
      w.logged T polls =
          (readPieces (.waiting .empty) pieces).1.map (·.filterMap entryOf?) ∧
        (w.logged T polls).flatten = frames.map (·.message.1.canonical)

/-- **The wire log and the server hear the same conversation**, however what a client writes is cut
into pieces, and wherever it breaks off. -/
theorem log_abreast_of_server {frames : List ClientFrame} {last : ClientFrame} {part : Bytes}
    (hpart : part <+: last.octets) (hopen : part ≠ last.octets) {pieces : List Bytes}
    (hpieces : pieces.flatten = frames.flatMap ClientFrame.octets ++ part) :
    HeardAlike frames last pieces := by
  have hstream := stream_of_part hpart hpieces
  obtain ⟨fresh, i, buffer, hread, htake, hend⟩ := abreast_nil.pieces hstream
  have hall : fresh.flatten = frames.map ClientFrame.body := by
    obtain ⟨missing, hwhole⟩ := hpart
    have hmissing : missing ≠ [] := by
      rintro rfl
      exact hopen (by rw [← hwhole, List.append_nil])
    obtain ⟨j, hpart⟩ := last.drain_strict_part hwhole hmissing
    have hserver := hend.server
    rw [List.nil_append, hpieces, drain_strict_frames, hpart, List.append_nil] at hserver
    exact (Prod.mk.inj hserver).1.symm
  refine ⟨?_, ⟨i, by rw [hread]⟩, by rw [hread, hall], ?_, ?_⟩
  · rw [hread, htake]
  · intro k
    have hfront : (pieces.take k).flatten <+: pieces.flatten :=
      ⟨(pieces.drop k).flatten, by rw [← List.flatten_append, List.take_append_drop]⟩
    obtain ⟨n, rest, j, hn, harrived, hrest, hnow⟩ := abreast_of_prefix (hfront.trans hstream)
    obtain ⟨taken, j', buffer', htaken, -, hthen⟩ := abreast_nil.pieces (hfront.trans hstream)
    have hn' : n ≤ frames.length :=
      not_taken_of_open hpart hopen (hpieces ▸ hfront) harrived hn
    rw [List.take_append_of_le_length hn'] at harrived hnow
    refine ⟨n, rest, hn', harrived, hrest, ?_⟩
    rw [← readPieces_take, htaken]
    exact (Prod.mk.inj (hthen.server.symm.trans hnow.server)).1
  · intro ε σ T w polls hw hempty hpolls
    rw [hread]
    refine Watched.logged_of_taken hall T hw polls ?_
    rw [hempty, hpolls, htake]

end Conversation

/-- A notification with nothing in it but its name. -/
def farewell : List Char := "\x7b\"jsonrpc\":\"2.0\",\"method\":\"exit\"\x7d".toList

/-- Three frames around the same body, each with another header. -/
def farewells : List ClientFrame :=
  [⟨.absent, farewell, rfl, by decide +kernel⟩,
    ⟨.before .dashed, farewell, rfl, by decide +kernel⟩,
    ⟨.behind .plain, farewell, rfl, by decide +kernel⟩]

/-- Their stream, with the beginning of the first behind it. -/
def farewellStream : Bytes :=
  farewells.flatMap ClientFrame.octets ++ (TypeLine.absent.frame farewell).take 25

/-- A transport in which the stream waits to be read. -/
def farewellLink : Watched (Pipe Empty) := .start { Pipe.empty with input := farewellStream } true

/-- Polls that cut the stream inside the second header and inside the third body. -/
def farewellPolls : List Call := [.read ⟨[], 70⟩, .read ⟨[], 170⟩, .read ⟨[], 70⟩]

theorem log_abreast_of_server_farewells :
    let last : ClientFrame := ⟨.absent, farewell, rfl, by decide +kernel⟩
    let pieces := [farewellStream.take 70, (farewellStream.drop 70).take 170,
      farewellStream.drop 240]
    last.octets.take 25 ≠ last.octets ∧
      pieces.flatten = farewells.flatMap ClientFrame.octets ++ last.octets.take 25 ∧
      HeardAlike farewells last pieces ∧
      Pipe.transport.arrivals farewellLink.inner farewellPolls = pieces ∧
      (farewellLink.logged Pipe.transport farewellPolls).flatten =
        farewells.map (·.message.1.canonical) := by
  intro last pieces
  have hopen : last.octets.take 25 ≠ last.octets := by decide +kernel
  have hpieces : pieces.flatten = farewells.flatMap ClientFrame.octets ++ last.octets.take 25 := by
    decide +kernel
  have halike := log_abreast_of_server (List.take_prefix 25 last.octets) hopen hpieces
  have harrivals : Pipe.transport.arrivals farewellLink.inner farewellPolls = pieces := by
    decide +kernel
  have hlive : farewellLink.Live := ⟨rfl, settled_nil, settled_nil⟩
  exact ⟨hopen, hpieces, halike, harrivals,
    (halike.logged Pipe.transport farewellPolls hlive rfl harrivals).2⟩

end KatakanaLsp.Wire
