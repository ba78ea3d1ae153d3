import KatakanaLsp.Logging.Record
import KatakanaLsp.Text.Quoted

/-!
# Log lines

A record as a line: the time, the level, the target and the message. On a terminal the parts are set
apart by colors, each level with its own. Whatever a message quotes cannot steer the terminal: the
characters that could are shown by their numbers.
-/

namespace KatakanaLsp.Logging

/-- The character that begins a color sequence. -/
def escape : String := "\x1b"

/-- A text in a style, and back to plain behind it. -/
def styled (style : Nat) (text : String) : String :=
  escape ++ "[" ++ Decimal.text style ++ "m" ++ text ++ escape ++ "[0m"

/-- The style of what stays in the background. -/
def dim : Nat := 2

/-- The style of a level. -/
def Level.style : Level → Nat
  | .error => 31
  | .warn => 33
  | .info => 32
  | .debug => 34
  | .trace => 35

/-- The name of a level, padded on the left to the longest. -/
def Level.column (l : Level) : String :=
  String.ofList (List.replicate (5 - l.name.length) ' ') ++ l.name

/-- A character that begins or is a command to a terminal; line feeds and tabs are none. -/
def isTerminalControl (c : Char) : Bool :=
  ['\x07', '\x08', '\x0c', '\x1b', '\x7f'].contains c || (0x80 ≤ c.toNat && c.toNat ≤ 0x9F)

/-- A character of a message as a line shows it. -/
def inertChar (c : Char) : List Char :=
  if !isTerminalControl c then [c]
  else if c.toNat < 0x80 then
    ['\\', 'x', Nat.digitChar (c.toNat / 16), Nat.digitChar (c.toNat % 16)]
  else ['\\', 'u', '\x7b'] ++ Text.hexDigits c.toNat ++ ['\x7d']

/-- A message as a line shows it. -/
def inert (message : String) : String := String.ofList (message.toList.flatMap inertChar)

/-- A record without colors. -/
def Record.plainLine (time : String) (r : Record) : String :=
  time ++ " " ++ r.level.column ++ " " ++ r.origin.target ++ ": " ++ inert r.message

/-- A record with colors. -/
def Record.coloredLine (time : String) (r : Record) : String :=
  styled dim time ++ " " ++ styled r.level.style r.level.column ++ " "
    ++ styled dim r.origin.target ++ styled dim ":" ++ " " ++ inert r.message

/-- A record in a line. -/
def Record.line (colored : Bool) (time : String) (r : Record) : String :=
  if colored then r.coloredLine time else r.plainLine time

end KatakanaLsp.Logging
