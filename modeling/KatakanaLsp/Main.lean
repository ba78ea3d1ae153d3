import KatakanaLsp.Files.Change
import KatakanaLsp.Program
import Std.Time.DateTime.Timestamp

/-!
# The executable

The outer layer of the program. It surveys the directory of the logs, calls the program with what it
finds, carries out what the program changes, and passes octets between the session and the standard
streams. It decides nothing itself.
-/

namespace KatakanaLsp.Main

open Files (Tree Location Path Change)
open Program (Beginning Serving)
open Wire (Timestamp)

/-! ## Time -/

/-- Seconds since the beginning of 1970, and the milliseconds beyond them. -/
def clock : IO (Int × Nat) := do
  let milliseconds := (← Std.Time.Timestamp.now).toMillisecondsSinceUnixEpoch.val
  return (milliseconds / 1000, (milliseconds % 1000).toNat)

/-- The date and the time of day at a reading of the clock. -/
def timestamp (reading : Int × Nat) : Timestamp :=
  let date := Std.Time.PlainDate.ofEpochDay ⟨reading.1 / 86400⟩
  let second := (reading.1 % 86400).toNat
  ⟨date.year.toInt.toNat, date.month.val.toNat, date.day.val.toNat,
    second / 3600, second / 60 % 60, second % 60, reading.2⟩

/-- The time now. -/
def currentTime : IO Timestamp := do return timestamp (← clock)

/-! ## Files -/

/-- The path of a location on disk. -/
def pathOf (loc : Location) : String :=
  String.join (loc.map fun name => "/" ++ Utf8.toStringLossy name)

/-- What a link on disk leads to. One that leads nowhere, and what is no file at all, counts as a
link of the empty path. -/
def targetOf (link : String) : IO Path := do
  try
    return .ofString (← IO.FS.realPath link).toString
  catch _ => return ⟨[]⟩

/-- What stands on disk in a directory. -/
def entriesIn (directory : Location) : IO (List (Location × Files.Entry)) := do
  let listed ← (← IO.FS.realPath (pathOf directory)).readDir
  listed.toList.mapM fun found => do
    let data ← found.path.symlinkMetadata
    let entry : Files.Entry ← match data.type with
      | .file => pure (.file [] data.modified.sec)
      | .dir => pure .directory
      | .symlink => do pure (.link (← targetOf found.path.toString))
      | .other => pure (.link ⟨[]⟩)
    return (directory ++ [Utf8.ofString found.fileName], entry)

/-- What stands on disk on the way down to a directory. -/
def entryAt? (loc : Location) : IO (Option Files.Entry) := do
  try
    let found ← IO.FS.realPath (pathOf loc)
    if ← found.isDir then return some .directory
    else if ← found.pathExists then return some (.file [] 0)
    else return none
  catch _ => return none

/-- What stands on disk on the way down to the directory at a path, and in it. -/
def survey (current : Location) (p : Path) : IO Tree := do
  let directory := p.start current ++ p.names
  let way ← (List.range directory.length).filterMapM fun i => do
    let loc := directory.take (i + 1)
    return (← entryAt? loc).map (loc, ·)
  let inside ← if way.lookup directory = some .directory then entriesIn directory else pure []
  return { Tree.ofEntries (way ++ inside) with current := current }

/-- Makes a change on disk. -/
def carryOut : Change → IO Unit
  | .makeDirectory loc => IO.FS.createDirAll (pathOf loc)
  | .append loc data => do
    let file ← IO.FS.Handle.mk (pathOf loc) .append
    file.write ⟨data.toArray⟩
  | .remove loc => IO.FS.removeFile (pathOf loc)

/-- Makes on disk what leads from one tree to another. -/
def carryOutAll (before after : Tree) : IO Unit := (before.changes after).forM carryOut

/-! ## Sessions -/

/-- Shows lines on the terminal. -/
def showLines (lines : List String) : IO Unit := lines.forM IO.eprintln

/-- Saves what a session has changed, and forgets what is saved. -/
def save (before : Tree) (s : Serving) : IO Serving := do
  carryOutAll before s.tree
  return { s with tree := s.tree.forgetContents }

/-- Waits for ever. -/
partial def standStill : IO Unit := do
  IO.sleep 1000
  standStill

/-- Serves a session until it is done. One that has nothing more to read, but is not done, stays. -/
partial def serve (input output : IO.FS.Stream) (s : Serving) : IO Serving := do
  let data ← input.read (USize.ofNat s.session.server.input.missing)
  let time ← currentTime
  let (next, result, lines) := s.step time data.toList data.isEmpty
  for message in result.messages do
    output.write ⟨(Server.Session.frameOf s.session.spelling message).toArray⟩
  output.flush
  showLines lines
  let next ← save s.tree next
  if result.done then return next
  if data.isEmpty || next.session.server.reading ≠ .going then standStill
  serve input output next

/-- The values of the variables that the program looks at. -/
def environment : IO Config.Environment := do
  let names := [Config.languageIdVariable, Config.filePatternVariable, Program.filterVariable]
  let values ← names.mapM fun name => do return (name, ← IO.getEnv name)
  return fun name => (values.lookup name).join.map Utf8.ofString

/-- Runs the program. -/
def run (words : List String) : IO UInt32 := do
  let reading ← clock
  let cacheHome := (← IO.getEnv "XDG_CACHE_HOME").map Utf8.ofString
  let home := (← IO.getEnv "HOME").map Utf8.ofString
  let cache := Logging.cacheDirectory? cacheHome home
  let current := (Path.ofString (← IO.currentDir).toString).names
  let before ← match cache with
    | some c => survey current (Logging.logDirectory c)
    | none => pure .empty
  let session := Program.sessionName (timestamp reading) (← IO.monoMsNow)
  match Program.start (words.map Utf8.ofString) (← environment) before cache session reading.1
      (timestamp reading) with
  | .ended ending _ after =>
    carryOutAll before after
    IO.print ending.stdout
    showLines ending.stderr
    return UInt32.ofNat ending.code
  | .serving s lines =>
    showLines lines
    let s ← save before s
    let done ← serve (← IO.getStdin) (← IO.getStdout) s
    let (closed, lines) := done.close (← currentTime)
    showLines lines
    let _ ← save done.tree closed
    return 0

end KatakanaLsp.Main

/-- The program. -/
def main (words : List String) : IO UInt32 := KatakanaLsp.Main.run words
