import KatakanaLsp.Program
import KatakanaLsp.Proofs.Wire.Recording
import KatakanaLsp.Proofs.Wire.Transparent

/-!
# The wire log does not disturb a session

A session with the wire log on is the session with the wire log off, and a log beside it. Leaving
the log out (`Session.unlogged`) turns the one into the other, and it makes no difference whether it
is left out before a step or after:

> `Session.step_unlogged`: leaving the log out commutes with a step.

So what the server says, what it reports and whether it has come to its end is the same in a step
with the log and without. The program beside the session adds only the files. There the log touches
its own file and no other (`Files.Tree.AgreeExcept`), and what the terminal shows depends on the
records alone. That two such sessions mirror each other (`Serving.Mirrors`) is kept by a step, and
so by a run:

> `Program.Serving.run_undisturbed`: a served session shows and says the same with the wire log and
> without, and leaves the same behind in every other file.
-/

namespace KatakanaLsp.Server

open Wire (Watched Pipe Passage)

/-! ## Sessions -/

/-- A step without what the wire log gains in it. -/
def Step.unlogged (s : Step) : Step := { s with passages := [] }

namespace Session

/-- A session with the wire log off. -/
def unlogged (s : Session) : Session := { s with link := s.link.unlogged }

theorem readAll_unlogged (link : Watched (Pipe Empty)) :
    readAll link.unlogged = ((readAll link).1, (readAll link).2.1.unlogged, []) := by
  unfold readAll
  rw [Watched.read_unlogged]
  rfl

theorem writeAll_unlogged (spelling : Spelling) (link : Watched (Pipe Empty)) (ms : List Json) :
    writeAll spelling link.unlogged ms = ((writeAll spelling link ms).1.unlogged, []) := by
  induction ms generalizing link with
  | nil => rfl
  | cons m ms ih =>
    unfold writeAll
    rw [Watched.write_unlogged]
    dsimp only
    rw [ih]
    rfl

theorem listen_unlogged (s : Session) (data : Bytes) (atEnd : Bool) :
    s.unlogged.listen data atEnd =
      ((s.listen data atEnd).1, (s.listen data atEnd).2.1.unlogged, []) := by
  have harrive : arrive s.unlogged.link data atEnd = (arrive s.link data atEnd).unlogged := rfl
  show (if s.server.reading = .going then readAll (arrive s.unlogged.link data atEnd)
    else ([], arrive s.unlogged.link data atEnd, [])) = _
  rw [harrive, readAll_unlogged]
  unfold listen
  split <;> rfl

/-- The parts of a step. -/
theorem step_eq (s : Session) (data : Bytes) (atEnd : Bool) :
    let heard := s.listen data atEnd
    let turn := s.server.turn heard.1 heard.2.1.inner.ended
    let written := writeAll s.spelling heard.2.1 turn.2.messages
    s.step data atEnd =
      (⟨turn.1, written.1, s.spelling⟩,
        ⟨turn.2.messages, turn.2.records, heard.2.2 ++ written.2, turn.1.isDone⟩) := rfl

/-- **Leaving the log out commutes with a step.** -/
theorem step_unlogged (s : Session) (data : Bytes) (atEnd : Bool) :
    s.unlogged.step data atEnd =
      ((s.step data atEnd).1.unlogged, (s.step data atEnd).2.unlogged) := by
  rw [step_eq, step_eq, listen_unlogged]
  dsimp only
  rw [writeAll_unlogged]
  rfl

end Session

end KatakanaLsp.Server

namespace KatakanaLsp.Program

open Files (Tree Path Location)
open Wire (Timestamp)

/-! ## Sessions that are served -/

/-- A recorder with the wire log at some file, or without. -/
def Recorder.withWire (r : Recorder) (wire : Wire.Logger) : Recorder :=
  { r with logs := { r.logs with wire := wire } }

variable {file : Location} {t t' : Tree}

/-- Messages that are logged change no other file. -/
theorem Recorder.logPassages_agree (r : Recorder) (path : Path) (h : t.AgreeExcept file t')
    (time : Timestamp) (ps : List Wire.Passage) :
    ((r.withWire (.on path file)).logPassages t time ps).AgreeExcept file
      ((r.withWire .off).logPassages t' time []) := by
  show Tree.AgreeExcept file
    (ps.foldl (fun t p => (Wire.Logger.on path file).record t time p) t) t'
  induction ps generalizing t with
  | nil => exact h
  | cons p ps ih => exact ih (h.append_left _)

/-- Records go to the session log, whichever wire log there is. -/
theorem Recorder.logRecords_agree (r : Recorder) (wire wire' : Wire.Logger)
    (h : t.AgreeExcept file t') (time : Timestamp) (records : List Logging.Record) :
    ((r.withWire wire).logRecords t time records).AgreeExcept file
      ((r.withWire wire').logRecords t' time records) := by
  have hlogs (l : Wire.Logger) : (r.withWire l).logs.session = r.logs.session := rfl
  unfold logRecords
  rw [hlogs, hlogs]
  cases r.logs.session with
  | none => exact h
  | some log => exact h.append log.file _

/-- What arrives in a step of a session: when, which octets, and whether the input ends there. -/
structure Arrival where
  time : Timestamp
  data : Bytes
  atEnd : Bool

namespace Serving

/-- A session of some service that begins, with messages in some spelling. -/
def startWith (r : Recorder) (spelling : Server.Spelling) (service : Server.Service) (t : Tree) :
    Serving :=
  ⟨r, .startIn spelling service r.logs.wire.isOn, t⟩

/-- The program serves the service that its configuration describes, in plain spelling. -/
theorem start_eq (r : Recorder) (config : Config) (t : Tree) :
    Serving.start r config t = startWith r Json.octets (.ofConfig config) t := rfl

/-- Several steps: what each brings, and what the terminal shows. -/
def run (s : Serving) : List Arrival → Serving × List (Server.Step × List String)
  | [] => (s, [])
  | a :: rest =>
    let (s, first, lines) := s.step a.time a.data a.atEnd
    let (s, others) := s.run rest
    (s, (first, lines) :: others)

theorem run_cons (s : Serving) (a : Arrival) (rest : List Arrival) :
    let next := s.step a.time a.data a.atEnd
    s.run (a :: rest) = ((next.1.run rest).1, next.2 :: (next.1.run rest).2) := rfl

/-- Two sessions that are served in the same way, one of them with a wire log. -/
structure Mirrors (r : Recorder) (path : Path) (file : Location) (s s' : Serving) : Prop where
  recorder : s.recorder = r.withWire (.on path file)
  recorder' : s'.recorder = r.withWire .off
  session : s'.session = s.session.unlogged

/-- **A step that is served shows and says the same with the wire log and without**, and treats all
other files the same. -/
theorem Mirrors.step {r : Recorder} {path : Path} {s s' : Serving} (h : Mirrors r path file s s')
    (a : Arrival) :
    Mirrors r path file (s.step a.time a.data a.atEnd).1 (s'.step a.time a.data a.atEnd).1 ∧
      (s'.step a.time a.data a.atEnd).2 =
        ((s.step a.time a.data a.atEnd).2.1.unlogged, (s.step a.time a.data a.atEnd).2.2) ∧
      (s.tree.AgreeExcept file s'.tree →
        (s.step a.time a.data a.atEnd).1.tree.AgreeExcept file
          (s'.step a.time a.data a.atEnd).1.tree) := by
  obtain ⟨recorder, session, tree⟩ := s
  obtain ⟨recorder', session', tree'⟩ := s'
  obtain ⟨hr, hr', hsession⟩ := h
  dsimp only at hr hr' hsession
  subst hr hr' hsession
  unfold Serving.step
  dsimp only
  rw [Server.Session.step_unlogged]
  refine ⟨⟨rfl, rfl, rfl⟩, rfl, fun htree => ?_⟩
  have hlogged := r.logPassages_agree path htree a.time (session.step a.data a.atEnd).2.passages
  exact r.logRecords_agree _ _ hlogged a.time _

/-- So does a run. -/
theorem Mirrors.run {r : Recorder} {path : Path} {s s' : Serving} (h : Mirrors r path file s s')
    (arrivals : List Arrival) :
    Mirrors r path file (s.run arrivals).1 (s'.run arrivals).1 ∧
      (s'.run arrivals).2 = ((s.run arrivals).2.map fun shown => (shown.1.unlogged, shown.2)) ∧
      (s.tree.AgreeExcept file s'.tree →
        (s.run arrivals).1.tree.AgreeExcept file (s'.run arrivals).1.tree) := by
  induction arrivals generalizing s s' with
  | nil => exact ⟨h, rfl, id⟩
  | cons a arrivals ih =>
    obtain ⟨hnext, hfirst, htree⟩ := h.step a
    obtain ⟨hlast, hothers, htrees⟩ := ih hnext
    rw [run_cons, run_cons]
    refine ⟨hlast, ?_, fun hbefore => htrees (htree hbefore)⟩
    dsimp only
    rw [hfirst, hothers, List.map_cons]

/-- **The wire log does not disturb a session.** Serve a session twice: whatever the service, its
configuration and its provider of candidates, however messages are spelled, whatever else is
recorded and shown, and whatever arrives in which steps; once with the wire log at some file, once
without. Step by step, the messages written, the records, whether the session is done and what the
terminal shows are the same; the only difference is what the log gains. If the files were the same
everywhere but there, they still are. -/
theorem run_undisturbed (spelling : Server.Spelling) (service : Server.Service) (r : Recorder)
    (path : Path) (file : Location) (t t' : Tree) (arrivals : List Arrival) :
    let logged := run (startWith (r.withWire (.on path file)) spelling service t) arrivals
    let plain := run (startWith (r.withWire .off) spelling service t') arrivals
    plain.2 = (logged.2.map fun shown => (shown.1.unlogged, shown.2)) ∧
      plain.1.session = logged.1.session.unlogged ∧
      (t.AgreeExcept file t' → logged.1.tree.AgreeExcept file plain.1.tree) := by
  intro logged plain
  have hstart : Mirrors r path file (startWith (r.withWire (.on path file)) spelling service t)
      (startWith (r.withWire .off) spelling service t') := ⟨rfl, rfl, rfl⟩
  obtain ⟨hlast, hshown, htrees⟩ := hstart.run arrivals
  exact ⟨hshown, hlast.session, htrees⟩

end Serving

end KatakanaLsp.Program
