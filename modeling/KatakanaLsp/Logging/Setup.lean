import KatakanaLsp.Files.Retention
import KatakanaLsp.Wire.Logger

/-!
# Setting up the logs

With file logging on, the logs of a session are kept in a directory of the user's cache: it is made
if it is missing, cleared of what is older than a week, and then gets the session log and, if asked
for, the wire log. With file logging off, no file is touched and there is no wire log.
-/

namespace KatakanaLsp.Logging

open Files (Tree Path Location FileError Work)

/-- Where the user's cache is: where the environment says, if it names an absolute path, and
else below the home directory. -/
def cacheDirectory? (cacheHome home : Option Bytes) : Option Path :=
  match cacheHome.filter fun b => b.head? = some Path.slash with
  | some b => some ⟨b⟩
  | none => home.map fun b => Path.join ⟨b⟩ ".cache"

/-- The directory of the logs, below the cache. -/
def logDirectory (cache : Path) : Path := (cache.join "japy").join "japy-language-server"

/-- The name of the session log of a session. -/
def sessionFileName (session : String) : String := "session-" ++ session ++ ".log"

/-- A session log that is open. -/
structure SessionLog where
  path : Path
  file : Location
  deriving DecidableEq, Repr

/-- The logs of a session. -/
structure Logs where
  wire : Wire.Logger
  session : Option SessionLog
  deriving DecidableEq, Repr

/-- No logs. -/
def Logs.none : Logs := ⟨.off, .none⟩

/-- Opens the logs of a session in a cache. -/
def openLogs (cache : Option Path) (session : String) (wire : Bool) (now : Int) : Work Logs := do
  let cache ← match cache with
    | some c => pure c
    | .none => throw FileError.noCacheDirectory
  let directory := logDirectory cache
  Work.of (·.createDirectories directory)
  let _ ← Work.of (Files.cleanUp · directory now Files.retentionSeconds)
  let wireLogger ← Work.of (Wire.Logger.open? · wire (some directory) session now)
  let path := directory.join (sessionFileName session)
  let file ← Work.of (·.openAppend path now)
  return ⟨wireLogger, some ⟨path, file⟩⟩

/-- Sets up the logs of a session. -/
def setUp (t : Tree) (cache : Option Path) (session : String) (fileLogging wire : Bool)
    (now : Int) : Except FileError Logs × Tree :=
  if fileLogging then (openLogs cache session wire now).on t else (.ok .none, t)

/-- The lines that say where the logs are. -/
def Logs.notices (l : Logs) : List String :=
  (match l.wire.path? with
    | some p => ["Wire logging to file: " ++ Text.quotedPath p.octets]
    | Option.none => [])
  ++ (match l.session with
    | some s => ["Logging to file: " ++ Text.quotedPath s.path.octets]
    | Option.none => [])

end KatakanaLsp.Logging
