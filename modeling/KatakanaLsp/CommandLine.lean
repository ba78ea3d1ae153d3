import KatakanaLsp.Text.Utf8

/-!
# The command line

Words are read from left to right. A switch stands alone, a setting takes the rest of its word
behind `=`, or else the next word; `--` ends both. What a word means shows at once, except that a
setting without `=` stays open until the next word: a word that can be a value closes it, and any
other means that the value is missing. Help and the version are shown as soon as they are asked for.
-/

namespace KatakanaLsp.CommandLine

/-- An option that is on or off. -/
inductive Switch where
  | stdio
  | noColor
  | noFileLogging
  | wireLog
  | validate
  deriving DecidableEq, Repr

/-- An option that has a value. -/
inductive Setting where
  | logLevel
  | languageId
  | filePattern
  deriving DecidableEq, Repr

/-- The name of a switch. -/
def Switch.name : Switch → String
  | .stdio => "stdio"
  | .noColor => "no-color"
  | .noFileLogging => "no-file-logging"
  | .wireLog => "wire-log"
  | .validate => "validate"

/-- The name of a setting. -/
def Setting.name : Setting → String
  | .logLevel => "log-level"
  | .languageId => "language-id"
  | .filePattern => "file-pattern"

/-- The name of the value of a setting. -/
def Setting.valueName : Setting → String
  | .logLevel => "LOG_LEVEL"
  | .languageId => "LANGUAGE_ID"
  | .filePattern => "FILE_PATTERN"

/-- A switch as messages show it. -/
def Switch.shown (s : Switch) : String := "--" ++ s.name

/-- A setting as messages show it. -/
def Setting.shown (s : Setting) : String := "--" ++ s.name ++ " <" ++ s.valueName ++ ">"

/-- What the command line asks for. -/
structure Options where
  switches : List Switch
  settings : List (Setting × String)
  deriving DecidableEq, Repr

namespace Options

/-- Nothing in particular. -/
def none : Options := ⟨[], []⟩

/-- Whether a switch is on. -/
def has (o : Options) (s : Switch) : Bool := o.switches.contains s

/-- The value of a setting. -/
def value? (o : Options) (s : Setting) : Option String := o.settings.lookup s

end Options

/-- Why a command line is refused. -/
inductive UsageError where
  | unexpectedArgument (word : String)
  | unexpectedValue (value option : String)
  | missingValue (option : String)
  | repeated (option : String)
  | notUtf8
  deriving DecidableEq, Repr

/-- The text of an error. -/
def UsageError.message : UsageError → String
  | .unexpectedArgument w => "error: unexpected argument '" ++ w ++ "' found"
  | .unexpectedValue v o =>
    "error: unexpected value '" ++ v ++ "' for '" ++ o ++ "' found; no more were expected"
  | .missingValue o => "error: a value is required for '" ++ o ++ "' but none was supplied"
  | .repeated o => "error: the argument '" ++ o ++ "' cannot be used multiple times"
  | .notUtf8 => "error: invalid UTF-8 was detected in one or more arguments"

/-- Why reading stops before the end: something is to be shown, or the command line is refused. -/
inductive Stop where
  | help
  | version
  | refused (cause : UsageError)
  deriving DecidableEq, Repr

/-- What a name stands for. -/
inductive Named where
  | switch (s : Switch)
  | setting (s : Setting)
  | help
  | version

/-- The switches. -/
def switches : List Switch := [.stdio, .noColor, .noFileLogging, .wireLog, .validate]

/-- The settings. -/
def settings : List Setting := [.logLevel, .languageId, .filePattern]

/-- What a long name stands for. -/
def named? (name : String) : Option Named :=
  if name = "help" then some .help
  else if name = "version" then some .version
  else
    match switches.find? (·.name == name) with
    | some s => some (.switch s)
    | none => (settings.find? (·.name == name)).map .setting

/-! ## Words -/

/-- A word of the command line. -/
inductive Word where
  | separator
  | long (name : Bytes) (attached : Option Bytes)
  | short (letters : Bytes)
  | plain (value : Bytes)

/-- The kind of a word. A hyphen alone is a value. -/
def Word.ofBytes : Bytes → Word
  | [45, 45] => .separator
  | 45 :: 45 :: rest =>
    match rest.span (· != 61) with
    | (name, []) => .long name none
    | (name, _ :: value) => .long name (some value)
  | 45 :: b :: rest => .short (b :: rest)
  | value => .plain value

/-! ## Reading -/

/-- What is read so far, and the setting that is still open: it has its value behind it, or waits
for one. -/
structure State where
  options : Options
  pending : Option (Setting × Option Bytes)
  deriving DecidableEq, Repr

/-- Nothing is read. -/
def State.start : State := ⟨.none, none⟩

/-- Gives a setting its value, once. -/
def assign (o : Options) (setting : Setting) (value : Bytes) : Except Stop Options :=
  if (o.value? setting).isSome then .error (.refused (.repeated setting.shown))
  else
    match Utf8.toString? value with
    | none => .error (.refused .notUtf8)
    | some v => .ok { o with settings := o.settings ++ [(setting, v)] }

/-- Closes the setting that is open. -/
def close (s : State) : Except Stop Options :=
  match s.pending with
  | none => .ok s.options
  | some (setting, none) => .error (.refused (.missingValue setting.shown))
  | some (setting, some value) => assign s.options setting value

/-- Turns a switch on, once. -/
def turnOn (o : Options) (switch : Switch) : Except Stop Options :=
  if o.has switch then .error (.refused (.repeated switch.shown))
  else .ok { o with switches := o.switches ++ [switch] }

/-- Closes the setting that is open and then stops. -/
def closeAndStop (s : State) (stop : Stop) : Except Stop State :=
  match close s with
  | .error e => .error e
  | .ok _ => .error stop

/-- Refuses a word. A setting that is open is forgotten over it. -/
def refuse (e : UsageError) : Except Stop State := .error (.refused e)

/-- Reads a word with a long name. -/
def readLong (s : State) (name : Bytes) (attached : Option Bytes) : Except Stop State :=
  let shown := "--" ++ Utf8.toStringLossy name
  match (Utf8.toString? name).bind named?, attached with
  | none, _ => refuse (.unexpectedArgument shown)
  | some (.setting setting), some value => do
    return ⟨← assign (← close s) setting value, none⟩
  | some (.setting setting), none => do return ⟨← close s, some (setting, none)⟩
  | some _, some value => refuse (.unexpectedValue (Utf8.toStringLossy value) shown)
  | some (.switch switch), none => do return ⟨← turnOn (← close s) switch, none⟩
  | some .help, none => closeAndStop s .help
  | some .version, none => closeAndStop s .version

/-- Reads a word of letters behind one hyphen. Both letters that mean something stop at once, so
that the first letter decides. -/
def readShort (s : State) (letters : Bytes) : Except Stop State :=
  match Utf8.scan letters with
  | some 'h' :: _ => closeAndStop s .help
  | some 'V' :: _ => closeAndStop s .version
  | some c :: _ => refuse (.unexpectedArgument ("-" ++ String.singleton c))
  | _ => refuse (.unexpectedArgument ("-" ++ Utf8.toStringLossy letters))

/-- Reads a word that is not an option. -/
def readPlain (s : State) (value : Bytes) : Except Stop State :=
  match s.pending with
  | some (setting, none) => .ok { s with pending := some (setting, some value) }
  | _ => refuse (.unexpectedArgument (Utf8.toStringLossy value))

/-- Reads words. Nothing may stand behind the separator. -/
def readWords (s : State) : List Bytes → Except Stop Options
  | [] => close s
  | w :: rest =>
    match Word.ofBytes w with
    | .separator =>
      match rest with
      | [] => close s
      | w :: _ => .error (.refused (.unexpectedArgument (Utf8.toStringLossy w)))
    | .long name attached => do readWords (← readLong s name attached) rest
    | .short letters => do readWords (← readShort s letters) rest
    | .plain value => do readWords (← readPlain s value) rest

/-- What a command line asks for. -/
def parse (words : List Bytes) : Except Stop Options :=
  readWords .start words

/-! ## Texts -/

/-- The lines that help shows. -/
def helpLines : List String :=
  ["Language Server Protocol completion provider for JaPy, the katakana Python dialect",
   "",
   "Usage: japy-language-server [OPTIONS]",
   "",
   "Options:",
   "      --stdio                        Accepted for clients that pass it; "
     ++ "stdin/stdout is the only transport",
   "      --log-level <LOG_LEVEL>        Log level for stderr, e.g. \"debug\" or "
     ++ "\"japy_language_server=trace\" (defaults to RUST_LOG, then \"info\")",
   "      --no-color                     Disable ANSI colors in stderr output",
   "      --no-file-logging              Do not write a session log to the user cache directory",
   "      --wire-log                     Record every JSON-RPC message in a wire log "
     ++ "next to the session log",
   "      --language-id <LANGUAGE_ID>    Language identifier to register completions for "
     ++ "(env: JAPY_LANGUAGE_ID)",
   "      --file-pattern <FILE_PATTERN>  Glob of JaPy files to register completions for "
     ++ "(env: JAPY_FILE_PATTERN)",
   "      --validate                     Check the dialect tables against "
     ++ "Python's keywords and built-ins, then exit",
   "  -h, --help                         Print help",
   "  -V, --version                      Print version"]

/-- The text that help shows. -/
def helpText : String := String.join (helpLines.map (· ++ "\n"))

end KatakanaLsp.CommandLine
