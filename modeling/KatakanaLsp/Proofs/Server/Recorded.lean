import KatakanaLsp.Proofs.Server.Saying
import KatakanaLsp.Proofs.Server.Undisturbed
import KatakanaLsp.Proofs.Wire.Framed

/-!
# The wire log has everything that the server says

The server writes a message as a frame, and the wire log takes frames apart again with a decoder of
its own. That the two agree on every message of every session is an invariant of sessions:

> `Session.Recording`: the tasks of the server are sound, the log is on, and the frame buffer of the
> outgoing side is empty, since every frame that was written has been taken out of it again.

In such a session what the server says in a turn is readable (`State.turn_sound`). If its spelling
is read back (`Legible`), whatever that spelling is, it is found in its frames (`loggedAsWritten`).
A step keeps the invariant and logs what it says:

> `Session.Recording.step`: the log gains the messages of the step, in order, and nothing else.

Frames must have a length that can be counted in 64 bits.
-/

namespace KatakanaLsp.Server

open Wire (Watched Pipe Passage Direction Conveyable Legible messages kindOf)

variable {spelling : Spelling}

/-- A message that can be said, in a spelling that is read back, and whose frame has a length is
found again in its frame. -/
theorem Output.Sound.conveyable {out : Output} (h : out.Sound) (hspelling : Legible spelling)
    {m : Json} (hm : m ∈ out.messages)
    (hfits : (Session.frameOf spelling m).length ≤ Decimal.max64) : Conveyable spelling m :=
  have hwithin := (h m hm).mono (by decide)
  ⟨hwithin, hspelling m hwithin, hfits⟩

namespace Session

/-! ## Writing -/

/-- The polls that write messages, a frame in each. -/
def writesOf (spelling : Spelling) (ms : List Json) : List Wire.Call :=
  ms.map fun m => .write (frameOf spelling m)

/-- Writing messages is polling to write their frames. -/
theorem writeAll_eq (spelling : Spelling) (link : Watched (Pipe Empty)) (ms : List Json) :
    writeAll spelling link ms = link.calls Pipe.transport (writesOf spelling ms) := by
  induction ms generalizing link with
  | nil => rfl
  | cons m ms ih =>
    have hothers := ih (link.write Pipe.transport (frameOf spelling m)).2.1
    unfold writeAll
    dsimp only
    rw [hothers]
    rfl

/-- A pipe that takes all that is offered. -/
structure Willing (p : Pipe Empty) : Prop where
  accepts : p.accepts = []
  disturbance : p.disturbance = none

/-- A poll to write to a willing pipe. -/
theorem Willing.call {p : Pipe Empty} (h : Willing p) (data : Bytes) :
    Pipe.transport.call p (.write data) =
      ({ p with output := p.output ++ data }, ⟨[], data⟩) := by
  obtain ⟨input, ended, output, accepts, disturbance, flushes, shutdowns⟩ := p
  obtain ⟨haccepts, hdisturbance⟩ := h
  dsimp only at haccepts hdisturbance
  subst haccepts hdisturbance
  simp [Wire.Transport.call, Pipe.transport, Pipe.write, Wire.accepted]

/-- A willing pipe takes frames in full, and is as willing afterwards. -/
theorem Willing.calls {p : Pipe Empty} (h : Willing p) (spelling : Spelling) (ms : List Json) :
    Pipe.transport.calls p (writesOf spelling ms) =
      ({ p with output := p.output ++ ms.flatMap (frameOf spelling) },
        ⟨[], ms.flatMap (frameOf spelling)⟩) := by
  induction ms generalizing p with
  | nil =>
    rw [List.flatMap_nil, List.append_nil]
    rfl
  | cons m ms ih =>
    have hnext : Willing { p with output := p.output ++ frameOf spelling m } :=
      ⟨h.accepts, h.disturbance⟩
    have hfirst := h.call (frameOf spelling m)
    rw [writesOf, List.map_cons, ← writesOf, Wire.Transport.calls, hfirst]
    dsimp only
    rw [ih hnext, List.flatMap_cons, ← List.append_assoc]
    rfl

/-- Writing to a willing pipe only adds frames to what was written, and the log stays on. -/
theorem writeAll_willing {link : Watched (Pipe Empty)} (hlive : link.Live)
    (hwilling : Willing link.inner) (spelling : Spelling) (ms : List Json) :
    (writeAll spelling link ms).1.Live ∧
      (writeAll spelling link ms).1.inner =
        { link.inner with output := link.inner.output ++ ms.flatMap (frameOf spelling) } := by
  have hinner := Watched.inner_calls Pipe.transport link (writesOf spelling ms)
  rw [hwilling.calls] at hinner
  rw [writeAll_eq]
  exact ⟨(Watched.calls_track Pipe.transport hlive (writesOf spelling ms)).live, hinner⟩

theorem Willing.written {p : Pipe Empty} (h : Willing p) (output : Bytes) :
    Willing { p with output := output } := ⟨h.accepts, h.disturbance⟩

theorem live_arrive {link : Watched (Pipe Empty)} (h : link.Live) (data : Bytes) (atEnd : Bool) :
    (arrive link data atEnd).Live := ⟨h.logging, h.arriving, h.leaving⟩

theorem Willing.arrive {link : Watched (Pipe Empty)} (h : Willing link.inner) (data : Bytes)
    (atEnd : Bool) : Willing (Session.arrive link data atEnd).inner := ⟨h.accepts, h.disturbance⟩

/-! ## Recording -/

/-- A session in which everything that was said has been logged: the tasks of the server are sound,
its spelling is read back, and the outgoing side of its transport waits for a frame to begin. -/
structure Recording (s : Session) : Prop where
  server : s.server.Sound
  spelling : Legible s.spelling
  live : s.link.Live
  leaving : s.link.leaving = []
  willing : Willing s.link.inner

theorem recording_startIn (h : Legible spelling) (service : Service) :
    (startIn spelling service true).Recording :=
  ⟨State.sound_start service, h, ⟨rfl, Wire.settled_nil, Wire.settled_nil⟩, rfl, rfl, rfl⟩

theorem Willing.read {p : Pipe Empty} (h : Willing p) (buffer : Wire.ReadBuffer) :
    Willing (p.read buffer).2.2 ∧ (p.read buffer).2.2.output = p.output := by
  unfold Pipe.read
  rw [h.disturbance]
  dsimp only
  split
  · exact ⟨h, rfl⟩
  · exact ⟨⟨h.accepts, rfl⟩, rfl⟩

/-- Reading changes nothing on the outgoing side. -/
theorem readAll_outgoing {link : Watched (Pipe Empty)} (hlive : link.Live)
    (hwilling : Willing link.inner) :
    (readAll link).2.1.Live ∧ (readAll link).2.1.leaving = link.leaving ∧
      Willing (readAll link).2.1.inner ∧
      (readAll link).2.1.inner.output = link.inner.output ∧
      messages .outgoing (readAll link).2.2 = [] := by
  let poll : Wire.Call := .read ⟨[], link.inner.input.length⟩
  have hcall : (readAll link).2 = link.call Pipe.transport poll := rfl
  have htracks := Watched.call_tracks Pipe.transport hlive poll
  have hinner := Watched.inner_call Pipe.transport link poll
  obtain ⟨hstays, houtput⟩ := hwilling.read ⟨[], link.inner.input.length⟩
  rw [hcall]
  -- reading brings no octets across in this direction, and of no octets nothing comes
  have hleaving : Wire.feed link.leaving [] = _ := htracks.leaving
  rw [Wire.feed_nil hlive.leaving] at hleaving
  obtain ⟨hnone, hsame⟩ := Prod.mk.inj hleaving
  refine ⟨htracks.live, hsame.symm, ?_, ?_, hnone.symm⟩
  · rw [hinner]
    exact hstays
  · rw [hinner]
    exact houtput

/-- Nor does listening. -/
theorem Recording.listen {s : Session} (h : s.Recording) (data : Bytes) (atEnd : Bool) :
    (s.listen data atEnd).2.1.Live ∧ (s.listen data atEnd).2.1.leaving = [] ∧
      Willing (s.listen data atEnd).2.1.inner ∧
      (s.listen data atEnd).2.1.inner.output = s.link.inner.output ∧
      messages .outgoing (s.listen data atEnd).2.2 = [] := by
  have hlive := live_arrive h.live data atEnd
  have hwilling := h.willing.arrive data atEnd
  have hleaving : (arrive s.link data atEnd).leaving = [] := h.leaving
  unfold Session.listen
  dsimp only
  split
  · obtain ⟨hlive', hleaving', hrest⟩ := readAll_outgoing hlive hwilling
    exact ⟨hlive', hleaving'.trans hleaving, hrest⟩
  · exact ⟨hlive, hleaving, hwilling, rfl, rfl⟩

/-- **In a step, the wire log gains what the server says, in order and nothing else**, and the step
leaves it in a state to go on. -/
theorem Recording.step {s : Session} (h : s.Recording) (data : Bytes) (atEnd : Bool)
    (hfits : ∀ m ∈ (s.step data atEnd).2.messages,
      (frameOf s.spelling m).length ≤ Decimal.max64) :
    let next := s.step data atEnd
    next.1.Recording ∧ next.1.spelling = s.spelling ∧
      next.1.link.inner.output =
        s.link.inner.output ++ next.2.messages.flatMap (frameOf s.spelling) ∧
      (∀ m ∈ next.2.messages, Conveyable s.spelling m) ∧
      messages .outgoing next.2.passages = next.2.messages.map Json.canonical := by
  obtain ⟨hlive, hleaving, hwilling, houtput, hincoming⟩ := h.listen data atEnd
  rw [step_eq] at hfits ⊢
  generalize s.listen data atEnd = heard at *
  obtain ⟨octets, link, incoming⟩ := heard
  obtain ⟨hserver, hsound⟩ := State.turn_sound h.server octets link.inner.ended
  dsimp only at *
  generalize s.server.turn octets link.inner.ended = turn at *
  obtain ⟨server, out⟩ := turn
  dsimp only at *
  have hms : ∀ m ∈ out.messages, Conveyable s.spelling m :=
    fun m hm => hsound.conveyable h.spelling hm (hfits m hm)
  -- the transport takes every frame in full
  have hsent := hwilling.calls s.spelling out.messages
  have hwritten : (Pipe.transport.calls link.inner (writesOf s.spelling out.messages)).2.left
      = out.messages.flatMap (frameOf s.spelling) := by
    rw [hsent]
  obtain ⟨-, hall⟩ := Wire.loggedAsWritten hms _ _ Pipe.transport link
    (writesOf s.spelling out.messages) hlive hleaving
  obtain ⟨hlogged, hempty⟩ := hall hwritten
  obtain ⟨hafter, hinner⟩ := writeAll_willing hlive hwilling s.spelling out.messages
  rw [writeAll_eq] at hafter hinner ⊢
  refine ⟨⟨hserver, h.spelling, hafter, hempty, ?_⟩, rfl, ?_, hms, ?_⟩
  · rw [hinner]
    exact hwilling.written _
  · rw [hinner, houtput]
  · rw [Wire.messages_append, hincoming, hlogged, List.nil_append]

/-- So it is over a run. -/
theorem Recording.run {s : Session} (h : s.Recording) (steps : List (Bytes × Bool))
    (hfits : ∀ st ∈ (s.run steps).2, ∀ m ∈ st.messages,
      (frameOf s.spelling m).length ≤ Decimal.max64) :
    (s.run steps).1.Recording ∧
      (s.run steps).1.link.inner.output = s.link.inner.output ++
        (s.run steps).2.flatMap (fun st => st.messages.flatMap (frameOf s.spelling)) ∧
      ∀ st ∈ (s.run steps).2, (∀ m ∈ st.messages, Conveyable s.spelling m) ∧
        messages .outgoing st.passages = st.messages.map Json.canonical := by
  induction steps generalizing s with
  | nil => exact ⟨h, (List.append_nil _).symm, nofun⟩
  | cons step steps ih =>
    obtain ⟨data, atEnd⟩ := step
    unfold Session.run at hfits ⊢
    dsimp only at hfits ⊢
    obtain ⟨hfirst, hothers⟩ := List.forall_mem_cons.mp hfits
    obtain ⟨hnext, hsame, hwritten, hconveyable, hlogged⟩ := h.step data atEnd hfirst
    rw [← hsame] at hothers
    obtain ⟨hlast, houtput, hrest⟩ := ih hnext hothers
    rw [hsame] at houtput hrest
    refine ⟨hlast, ?_, List.forall_mem_cons.mpr ⟨⟨hconveyable, hlogged⟩, hrest⟩⟩
    rw [houtput, hwritten, List.flatMap_cons, List.append_assoc]

end Session

end KatakanaLsp.Server

namespace KatakanaLsp.Program

open Files (Tree Path Location)
open Server.Session (frameOf)
open Wire (Watched Passage Transport Conveyable Legible messages kindOf)

variable {spelling : Server.Spelling}

/-! ## The file -/

/-- Logging messages adds their entries at the end of the wire log. -/
theorem Recorder.content?_logPassages {r : Recorder} {path : Path} {file : Location}
    (h : r.logs.wire = .on path file) (t : Tree) (time : Wire.Timestamp) (ps : List Passage) :
    (r.logPassages t time ps).content? file =
      (t.content? file).map (· ++ ps.flatMap (·.octets time)) := by
  have hentries := Wire.Logger.content?_recordAll path file t (ps.map (time, ·))
  rw [Wire.Logger.recordAll, List.foldl_map, Wire.Entries.octets, List.flatMap_map] at hentries
  unfold Recorder.logPassages
  rw [h]
  exact hentries

/-- A session log that is a file of its own leaves the wire log alone. -/
theorem Recorder.content?_logRecords {r : Recorder} {file : Location}
    (h : ∀ log, r.logs.session = some log → log.file ≠ file) (t : Tree) (time : Wire.Timestamp)
    (records : List Logging.Record) :
    (r.logRecords t time records).content? file = t.content? file := by
  unfold Recorder.logRecords
  split
  · rfl
  next log hlog =>
    unfold Tree.content?
    rw [Tree.entry?_append_of_ne t (h log hlog).symm]

namespace Serving

/-- What the wire log gains in a step. -/
def entriesOf (a : Arrival) (shown : Server.Step × List String) : Bytes :=
  shown.1.passages.flatMap (·.octets a.time)

/-- Every step adds the entries of its messages to the wire log. -/
theorem content?_run {s : Serving} {path : Path} {file : Location}
    (hwire : s.recorder.logs.wire = .on path file)
    (hapart : ∀ log, s.recorder.logs.session = some log → log.file ≠ file)
    (arrivals : List Arrival) :
    (s.run arrivals).1.tree.content? file =
      (s.tree.content? file).map
        (· ++ (List.zipWith entriesOf arrivals (s.run arrivals).2).flatten) := by
  induction arrivals generalizing s with
  | nil => simp [run]
  | cons a arrivals ih =>
    have hfirst : (s.step a.time a.data a.atEnd).1.tree.content? file =
        (s.tree.content? file).map (· ++ entriesOf a (s.step a.time a.data a.atEnd).2) := by
      show (s.recorder.logRecords _ a.time _).content? file = _
      rw [Recorder.content?_logRecords hapart, Recorder.content?_logPassages hwire]
      rfl
    have hothers := ih (s := (s.step a.time a.data a.atEnd).1) hwire hapart
    rw [run_cons, List.zipWith_cons_cons, List.flatten_cons, hothers, hfirst, Option.map_map]
    congr 1
    funext content
    exact List.append_assoc ..

/-- What is served is the session. -/
theorem session_run (s : Serving) (arrivals : List Arrival) :
    let steps := arrivals.map fun a => (a.data, a.atEnd)
    (s.run arrivals).1.session = (s.session.run steps).1 ∧
      (s.run arrivals).2.map Prod.fst = (s.session.run steps).2 := by
  induction arrivals generalizing s with
  | nil => exact ⟨rfl, rfl⟩
  | cons a arrivals ih =>
    obtain ⟨hsession, hsteps⟩ := ih (s.step a.time a.data a.atEnd).1
    rw [run_cons]
    exact ⟨hsession, congrArg (List.cons _) hsteps⟩

/-- The entry for a message that the server wrote. -/
def entryFor (m : Json) : Passage := ⟨.outgoing, m.canonical⟩

/-- What an entry says of a message that was written: its body is the compact text of the message
with sorted keys, which reads as the message; what is in the frame of the message reads as the same;
and its type is that of the message. -/
theorem entryFor_spec {m : Json} (h : Conveyable spelling m) :
    (entryFor m).body = m.canonical.octets ∧
      (Utf8.decode? (entryFor m).body).bind Json.parse? = some m.canonical ∧
      ((Utf8.decode? (spelling m)).bind Json.parse?).map Json.canonical =
        (Utf8.decode? (entryFor m).body).bind Json.parse? ∧
      kindOf (entryFor m).message = kindOf m := by
  have hbody : (entryFor m).body = m.canonical.octets := by
    show m.canonical.canonical.octets = _
    rw [Json.canonical_canonical]
  have hread := Wire.parse?_canonical h.within
  rw [hbody]
  refine ⟨rfl, hread, h.spelled.trans hread.symm, ?_⟩
  show kindOf m.canonical = _
  rw [kindOf, Json.hasField_canonical, Json.hasField_canonical]
  rfl

/-- **The wire log has everything that the server says.** Serve a session with the wire log on,
whatever the service and whatever arrives in which steps, with messages in any spelling that is read
back. Then in each step the outgoing entries are those of the messages written in it, one for one
and in order, and each says of its message what it should (`entryFor_spec`). Nothing but these
messages is written. The entries of each step, and nothing else, come at the end of the file, if the
session log is not kept in it too. And none of this depends on a frame being written at once: a
message is logged when its frame has been taken in full, and not before (`LoggedAsWritten`). The
frames must have lengths of 64 bits. -/
theorem run_recorded (hspelling : Legible spelling) (service : Server.Service) (r : Recorder)
    (path : Path) (file : Location) (t : Tree) (arrivals : List Arrival)
    (hfits : ∀ shown ∈ (run (startWith (r.withWire (.on path file)) spelling service t) arrivals).2,
      ∀ m ∈ shown.1.messages, (frameOf spelling m).length ≤ Decimal.max64) :
    let served := run (startWith (r.withWire (.on path file)) spelling service t) arrivals
    (∀ shown ∈ served.2,
      shown.1.passages.filter (·.direction = .outgoing) = shown.1.messages.map entryFor ∧
      (∀ m ∈ shown.1.messages,
        (entryFor m).body = m.canonical.octets ∧
        (Utf8.decode? (entryFor m).body).bind Json.parse? = some m.canonical ∧
        ((Utf8.decode? (spelling m)).bind Json.parse?).map Json.canonical =
          (Utf8.decode? (entryFor m).body).bind Json.parse? ∧
        kindOf (entryFor m).message = kindOf m) ∧
      Wire.LoggedAsWritten spelling shown.1.messages) ∧
    served.1.session.link.inner.output =
      served.2.flatMap (fun shown => shown.1.messages.flatMap (frameOf spelling)) ∧
    ((∀ log, r.logs.session = some log → log.file ≠ file) →
      served.1.tree.content? file =
        (t.content? file).map (· ++ (List.zipWith entriesOf arrivals served.2).flatten)) := by
  intro served
  let session := Server.Session.startIn spelling service true
  let steps := arrivals.map fun a => (a.data, a.atEnd)
  -- what is shown of the steps is what the session does in them
  obtain ⟨hsession, hsteps⟩ : served.1.session = (session.run steps).1 ∧
      served.2.map Prod.fst = (session.run steps).2 := session_run _ arrivals
  have hall : ∀ st ∈ (session.run steps).2, ∀ m ∈ st.messages,
      (frameOf spelling m).length ≤ Decimal.max64 := by
    rw [← hsteps]
    intro st hst
    obtain ⟨shown, hshown, rfl⟩ := List.mem_map.mp hst
    exact hfits shown hshown
  have hstart := Server.Session.recording_startIn hspelling service
  obtain ⟨-, houtput, hlogged⟩ := hstart.run steps hall
  rw [← hsteps] at houtput hlogged
  refine ⟨?_, ?_, ?_⟩
  · intro shown hshown
    obtain ⟨hconveyable, hpassages⟩ := hlogged shown.1 (List.mem_map_of_mem hshown)
    refine ⟨?_, fun m hm => entryFor_spec (hconveyable m hm), Wire.loggedAsWritten hconveyable⟩
    rw [Wire.filter_direction, hpassages, List.map_map]
    rfl
  · rw [hsession, houtput, List.flatMap_map]
    exact List.nil_append _
  · intro hapart
    exact content?_run rfl hapart arrivals

/-- A client that asks to be told of completion later and is ready at once, and then sends octets
that are no frame. -/
def hastyClient : List Arrival :=
  let framed (body : String) : Bytes := Protocol.Framing.frame (Utf8.ofString body)
  let capabilities :=
    "\x7b\"textDocument\":\x7b\"completion\":\x7b\"dynamicRegistration\":true\x7d\x7d\x7d"
  let greeting := "\x7b\"jsonrpc\":\"2.0\",\"id\":1,\"method\":\"initialize\",\"params\":"
    ++ "\x7b\"capabilities\":" ++ capabilities ++ "\x7d\x7d"
  let ready := "\x7b\"jsonrpc\":\"2.0\",\"method\":\"initialized\",\"params\":\x7b\x7d\x7d"
  [⟨⟨2024, 1, 2, 3, 4, 5, 6⟩, framed greeting, false⟩,
    ⟨⟨2024, 1, 2, 3, 4, 5, 7⟩, framed ready, false⟩,
    ⟨⟨2024, 1, 2, 3, 4, 5, 8⟩, [58], true⟩]

/-- Its session, with a wire log and no other. -/
def hastySession : Serving :=
  let recorder : Recorder := ⟨.upTo .info, false, .none⟩
  startWith (recorder.withWire (.on (.ofString "wire.log") [Utf8.ofString "wire.log"])) Json.octets
    (.ofConfig .default) (Tree.empty.put [Utf8.ofString "wire.log"] (.file [] 0))

/-- It is answered, asked to register and told of its error. -/
theorem messages_hastySession :
    (hastySession.run hastyClient).2.map (fun shown =>
      shown.1.messages.map fun m => ((frameOf Json.octets m).length, kindOf m)) =
      [[(187, .response)], [(320, .request)], [(97, .response)]] := by
  decide +kernel

theorem fits_hastySession : ∀ shown ∈ (hastySession.run hastyClient).2, ∀ m ∈ shown.1.messages,
    (frameOf Json.octets m).length ≤ Decimal.max64 := by
  intro shown hshown m hm
  have hstep := List.mem_map_of_mem (f := fun shown : Server.Step × List String =>
    shown.1.messages.map fun m => ((frameOf Json.octets m).length, kindOf m)) hshown
  have hsize := List.mem_map_of_mem (f := fun m => ((frameOf Json.octets m).length, kindOf m)) hm
  rw [messages_hastySession] at hstep
  have hsmall : ∀ sizes ∈ [[(187, Wire.MessageKind.response)], [(320, .request)],
      [(97, .response)]], ∀ size ∈ sizes, size.1 ≤ Decimal.max64 := by
    decide
  exact hsmall _ hstep _ hsize

theorem run_recorded_hasty :
    Legible Json.octets ∧ (∀ shown ∈ (hastySession.run hastyClient).2, ∀ m ∈ shown.1.messages,
      (frameOf Json.octets m).length ≤ Decimal.max64) ∧
    (hastySession.run hastyClient).2.map (fun shown =>
      (shown.1.passages.filter (·.direction = .outgoing)).map fun p => kindOf p.message) =
      [[.response], [.request], [.response]] := by
  refine ⟨Wire.legible_octets, fits_hastySession, ?_⟩
  obtain ⟨hrecorded, -⟩ := run_recorded Wire.legible_octets (.ofConfig .default)
    ⟨.upTo .info, false, .none⟩ (.ofString "wire.log") [Utf8.ofString "wire.log"] _ hastyClient
    fits_hastySession
  have hkinds := congrArg (List.map (List.map Prod.snd)) messages_hastySession
  rw [List.map_map] at hkinds
  refine Eq.trans (List.map_congr_left fun shown hshown => ?_) hkinds
  obtain ⟨hsame, hentries, -⟩ := hrecorded shown hshown
  rw [hsame, List.map_map, Function.comp, List.map_map]
  exact List.map_congr_left fun m hm => (hentries m hm).2.2.2

end Serving

end KatakanaLsp.Program
