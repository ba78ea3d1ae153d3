import KatakanaLsp.Text.Decimal
import KatakanaLsp.Text.Printable
import KatakanaLsp.Text.Utf8

/-!
# Quoted text

Diagnostics show a string between double quotes: `"`, `\`, line feed, carriage return, tab and NUL
have a short escape, every other character that has no glyph of its own is written by its number
in braces, and all else stands for itself. A file path is shown the same way, except that it also
escapes the single quote and writes octets outside UTF-8 as `\xNN`.
-/

namespace KatakanaLsp.Text

/-- The lower-case hexadecimal digits of a number, without leading zeros. -/
def hexDigits (n : Nat) : List Char :=
  if n < 16 then [Nat.digitChar n] else hexDigits (n / 16) ++ [Nat.digitChar (n % 16)]
termination_by n

/-- A character of quoted text. -/
def quoteChar (c : Char) : List Char :=
  match c with
  | '"' => ['\\', '"']
  | '\\' => ['\\', '\\']
  | '\n' => ['\\', 'n']
  | '\r' => ['\\', 'r']
  | '\t' => ['\\', 't']
  | _ =>
    if c.toNat = 0 then ['\\', '0']
    else if isPrintable c && !isExtender c then [c]
    else ['\\', 'u', '\x7b'] ++ hexDigits c.toNat ++ ['\x7d']

/-- A text between double quotes. -/
def quoted (s : String) : String :=
  String.ofList ('"' :: s.toList.flatMap quoteChar ++ ['"'])

/-- Quoted text when there is one: `Some("x")`, else `None`. -/
def quotedOption : Option String → String
  | some s => "Some(" ++ quoted s ++ ")"
  | none => "None"

/-- Several quoted texts in brackets. -/
def quotedList (l : List String) : String :=
  "[" ++ String.intercalate ", " (l.map quoted) ++ "]"

/-- A character of a quoted path. -/
def quotePathChar (c : Char) : List Char :=
  if c = '\'' then ['\\', '\''] else quoteChar c

/-- An octet outside UTF-8. -/
def quoteOctet (b : UInt8) : List Char :=
  let digit (n : Nat) : Char := (Nat.digitChar n).toUpper
  ['\\', 'x', digit (b.toNat / 16), digit (b.toNat % 16)]

/-- The octets of a path, of which some are skipped that belong to a character written before. -/
def quotePathOctets : Nat → Bytes → List Char
  | _, [] => []
  | skipped + 1, _ :: rest => quotePathOctets skipped rest
  | 0, b :: rest =>
    match Utf8.first? (b :: rest) with
    | some c => quotePathChar c ++ quotePathOctets ((String.utf8EncodeChar c).length - 1) rest
    | none => quoteOctet b ++ quotePathOctets 0 rest

/-- A path between double quotes. -/
def quotedPath (path : Bytes) : String :=
  String.ofList ('"' :: quotePathOctets 0 path ++ ['"'])

end KatakanaLsp.Text
