import KatakanaLsp.CommandLine
import KatakanaLsp.Dialect.Coverage
import KatakanaLsp.Logging.Filter
import KatakanaLsp.Logging.Line
import KatakanaLsp.Logging.Setup
import KatakanaLsp.Server.Session

/-!
# The program

What the program does from its command line on: it shows a text and ends; or it checks the tables
of the dialect and ends; or it serves a session until the input does. Records go to the terminal, as
far as its filter shows them, and from `debug` up to the session log; messages that pass the
transport go to the wire log.
-/

namespace KatakanaLsp.Program

open CommandLine (Options)
open Files (Tree Path FileError)
open Logging (Record Filter Logs)
open Wire (Timestamp)

/-- How a program ends that has only something to say. -/
structure Ending where
  code : Nat
  stdout : String
  stderr : List String
  deriving DecidableEq, Repr

/-- The ending that reading the command line has come to. -/
def Ending.ofStop : CommandLine.Stop → Ending
  | .help => ⟨0, CommandLine.helpText, []⟩
  | .version => ⟨0, Server.serverName ++ " " ++ Server.serverVersion ++ "\n", []⟩
  | .refused e => ⟨2, "", [e.message]⟩

/-- The variable with the terminal's filter. -/
def filterVariable : String := "RUST_LOG"

/-- Where records and messages are recorded. -/
structure Recorder where
  filter : Filter
  colored : Bool
  logs : Logs

/-- The name of a session: when it began, and a number that sets it apart. -/
def sessionName (time : Timestamp) (number : Nat) : String :=
  String.ofList (Decimal.padded 4 time.year ++ Decimal.padded 2 time.month
    ++ Decimal.padded 2 time.day ++ '-' :: Decimal.padded 2 time.hour
    ++ Decimal.padded 2 time.minute ++ Decimal.padded 2 time.second ++ '-' :: Decimal.digits number)

/-- Whether the options ask for logs in files. -/
def wantsFiles (o : Options) : Bool := !o.has .noFileLogging && !o.has .validate

/-- The terminal's filter, with lines about what was passed over in it. -/
def terminalFilter (o : Options) (environment : Config.Environment) : Filter × List String :=
  Filter.forTerminal (o.value? .logLevel) (environment filterVariable)

/-- Sets up the recording, and says what is to be shown before any record. -/
def setUp (o : Options) (environment : Config.Environment) (t : Tree) (cache : Option Path)
    (session : String) (now : Int) : Except FileError Recorder × Tree × List String :=
  let (filter, ignored) := terminalFilter o environment
  match Logging.setUp t cache session (wantsFiles o) (o.has .wireLog) now with
  | (.error e, left) => (.error e, left, ignored)
  | (.ok logs, left) => (.ok ⟨filter, !o.has .noColor, logs⟩, left, ignored ++ logs.notices)

/-- The ending of a program whose logs cannot be set up. -/
def Ending.ofFileError (e : FileError) (lines : List String) : Ending :=
  ⟨1, "", lines ++ ["Error: " ++ e.message]⟩

/-- A time in a log line. -/
def timeText (time : Timestamp) : String := String.ofList ('[' :: time.chars ++ [']'])

namespace Recorder

/-- The lines of records that the terminal shows. -/
def terminalLines (r : Recorder) (time : Timestamp) (records : List Record) : List String :=
  (records.filter r.filter.shows).map (·.line r.colored (timeText time))

/-- The lines of records that the session log gets. -/
def sessionLines (time : Timestamp) (records : List Record) : List String :=
  (records.filter (Filter.upTo .debug).shows).map (·.plainLine (timeText time))

/-- Adds records to the session log. -/
def logRecords (r : Recorder) (t : Tree) (time : Timestamp) (records : List Record) : Tree :=
  match r.logs.session with
  | none => t
  | some log =>
    t.append log.file ((sessionLines time records).flatMap fun l => Utf8.ofString (l ++ "\n"))

/-- Adds messages to the wire log. -/
def logPassages (r : Recorder) (t : Tree) (time : Timestamp) (ps : List Wire.Passage) : Tree :=
  ps.foldl (fun t p => r.logs.wire.record t time p) t

end Recorder

/-- Checks the tables: the exit code and what is reported. -/
def validate : Nat × List Record :=
  let (code, events) :=
    Dialect.validate Dialect.keywords Dialect.builtinFunctions Dialect.builtinTypes
  (code, events.map (·.record))

/-- The configuration that the environment and the options give. -/
def configOf (o : Options) (environment : Config.Environment) : Config :=
  (Config.ofEnvironment environment).withOverride ⟨o.value? .languageId, o.value? .filePattern⟩

/-- What is reported before a session begins. -/
def openingRecords (o : Options) (config : Config) : List Record :=
  (if o.has .stdio then
    [⟨.debug, .program, "--stdio given; stdin/stdout is already the transport"⟩] else [])
  ++ [⟨.info, .program, "Starting JaPy language server " ++ Server.serverVersion ++ " for '"
    ++ config.languageId ++ "' (" ++ config.filePattern ++ ") on stdio"⟩]

/-- What is reported after a session has ended. -/
def closingRecords : List Record := [⟨.info, .program, "JaPy language server exited"⟩]

/-- A session that is served: the recording, the server and the files. -/
structure Serving where
  recorder : Recorder
  session : Server.Session
  tree : Tree

namespace Serving

/-- A session that begins. -/
def start (r : Recorder) (config : Config) (t : Tree) : Serving :=
  ⟨r, .start (.ofConfig config) r.logs.wire.isOn, t⟩

/-- Reports records, and says what the terminal shows of them. -/
def report (s : Serving) (time : Timestamp) (records : List Record) : Serving × List String :=
  ({ s with tree := s.recorder.logRecords s.tree time records },
    s.recorder.terminalLines time records)

/-- One step of the session: the messages written, and what the terminal shows. -/
def step (s : Serving) (time : Timestamp) (data : Bytes) (atEnd : Bool) :
    Serving × Server.Step × List String :=
  let (session, result) := s.session.step data atEnd
  let s := { s with
    session := session
    tree := s.recorder.logPassages s.tree time result.passages }
  let (s, lines) := s.report time result.records
  (s, result, lines)

/-- The end of a session that is done. -/
def close (s : Serving) (time : Timestamp) : Serving × List String := s.report time closingRecords

end Serving

/-- How a program begins: with its end, or with a session. -/
inductive Beginning where
  | ended (ending : Ending) (logs : Logs) (t : Tree)
  | serving (s : Serving) (lines : List String)

/-- The beginning of a program that is to check the tables. -/
def beginValidation (r : Recorder) (t : Tree) (time : Timestamp) (lines : List String) :
    Beginning :=
  let (code, records) := validate
  .ended ⟨code, "", lines ++ r.terminalLines time records⟩ r.logs (r.logRecords t time records)

/-- The beginning of a program that is to serve a session. -/
def beginSession (o : Options) (environment : Config.Environment) (r : Recorder) (t : Tree)
    (time : Timestamp) (lines : List String) : Beginning :=
  let config := configOf o environment
  let (s, opening) := (Serving.start r config t).report time (openingRecords o config)
  .serving s (lines ++ opening)

/-- What a program does first that is called with these words, in this environment, over these
files. -/
def start (words : List Bytes) (environment : Config.Environment) (t : Tree) (cache : Option Path)
    (session : String) (now : Int) (time : Timestamp) : Beginning :=
  match CommandLine.parse words with
  | .error stop => .ended (.ofStop stop) .none t
  | .ok options =>
    match setUp options environment t cache session now with
    | (.error e, left, lines) => .ended (.ofFileError e lines) .none left
    | (.ok recorder, t, lines) =>
      if options.has .validate then beginValidation recorder t time lines
      else beginSession options environment recorder t time lines

end KatakanaLsp.Program
