import KatakanaLsp.Text.Decimal
import KatakanaLsp.Text.Utf8

/-!
# Percent encoding

A part of a URL writes some characters as `%XX`, one for each octet of their UTF-8 encoding. Which
ones depends on the part: an `EscapeSet` lists the printable ASCII characters it escapes, and every
set escapes the controls and everything beyond ASCII. A `%` is never escaped, so text that is
encoded already stays as it is.
-/

namespace KatakanaLsp.Url

/-- The printable ASCII characters that a part of a URL escapes. -/
abbrev EscapeSet := List Char

/-- Opaque paths and opaque hosts escape only what every part escapes. -/
def controlSet : EscapeSet := []

/-- Characters that a fragment escapes. -/
def fragmentSet : EscapeSet := [' ', '"', '<', '>', '\x60']

/-- Characters that a query escapes. -/
def querySet : EscapeSet := [' ', '"', '#', '<', '>']

/-- Characters that a query escapes where the scheme is special. -/
def specialQuerySet : EscapeSet := '\'' :: querySet

/-- Characters that a path escapes. -/
def pathSet : EscapeSet := fragmentSet ++ ['#', '?', '\x7b', '\x7d']

/-- Characters that a user name and a password escape. -/
def userinfoSet : EscapeSet := pathSet ++ ['/', ':', ';', '=', '@', '[', '\\', ']', '^', '|']

/-- A hexadecimal digit, upper case. -/
def upperHex (d : Nat) : Char := (Nat.digitChar d).toUpper

/-- An octet as `%XX`. -/
def escapeOctet (b : UInt8) : List Char := ['%', upperHex (b.toNat / 16), upperHex (b.toNat % 16)]

/-- Whether a part with a set escapes a character. -/
def EscapeSet.escapes (set : EscapeSet) (c : Char) : Bool :=
  c.toNat < 0x20 || 0x7F ≤ c.toNat || set.contains c

/-- A character as a part with a set writes it. -/
def EscapeSet.encodeChar (set : EscapeSet) (c : Char) : List Char :=
  if set.escapes c then (String.utf8EncodeChar c).flatMap escapeOctet else [c]

/-- A text as a part with a set writes it. -/
def EscapeSet.encode (set : EscapeSet) (s : List Char) : List Char := s.flatMap set.encodeChar

/-- The value of a hexadecimal digit. -/
def hexValue? (c : Char) : Option Nat :=
  if Decimal.isDigit c then some (c.toNat - 48)
  else if 'a' ≤ c && c ≤ 'f' then some (c.toNat - 87)
  else if 'A' ≤ c && c ≤ 'F' then some (c.toNat - 55)
  else none

/-- The octets that a text stands for once each `%XX` in it is read. -/
def percentDecode : List Char → Bytes
  | [] => []
  | '%' :: a :: b :: rest =>
    match hexValue? a, hexValue? b with
    | some x, some y => UInt8.ofNat (x * 16 + y) :: percentDecode rest
    | _, _ => 0x25 :: percentDecode (a :: b :: rest)
  | c :: rest => String.utf8EncodeChar c ++ percentDecode rest

end KatakanaLsp.Url
