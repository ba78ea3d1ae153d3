import KatakanaLsp.Json.Basic
import KatakanaLsp.Number.Shortest
import KatakanaLsp.Text.Utf8

/-!
# Compact JSON text

`chars` writes a value without blanks. Strings escape the double quote, the backslash and the
controls below U+0020, and nothing else, so that no text of a value holds a raw line feed.
-/

namespace KatakanaLsp.Json

/-- A character inside a string literal. -/
def escapeChar (c : Char) : List Char :=
  match c with
  | '"' => ['\\', '"']
  | '\\' => ['\\', '\\']
  | '\n' => ['\\', 'n']
  | '\r' => ['\\', 'r']
  | '\t' => ['\\', 't']
  | _ =>
    if c.toNat = 0x08 then ['\\', 'b']
    else if c.toNat = 0x0C then ['\\', 'f']
    else if c.toNat < 0x20 then
      ['\\', 'u', '0', '0', Nat.digitChar (c.toNat / 16), Nat.digitChar (c.toNat % 16)]
    else [c]

/-- A string literal. -/
def stringChars (s : List Char) : List Char := '"' :: s.flatMap escapeChar ++ ['"']

/-- A numeral. -/
def numberChars : JsonNumber → List Char
  | .int i => if i < 0 then '-' :: Decimal.digits i.natAbs else Decimal.digits i.natAbs
  | .float x => x.text

mutual

/-- The compact text of a value. -/
def chars : Json → List Char
  | .null => ['n', 'u', 'l', 'l']
  | .bool true => ['t', 'r', 'u', 'e']
  | .bool false => ['f', 'a', 'l', 's', 'e']
  | .number n => numberChars n
  | .string s => stringChars s.toList
  | .array items => '[' :: itemsChars items ++ [']']
  | .object fields => '\x7b' :: fieldsChars fields ++ ['\x7d']

/-- Items between commas. -/
def itemsChars : List Json → List Char
  | [] => []
  | [v] => chars v
  | v :: w :: rest => chars v ++ ',' :: itemsChars (w :: rest)

/-- Fields between commas. -/
def fieldsChars : List (String × Json) → List Char
  | [] => []
  | [(k, v)] => stringChars k.toList ++ ':' :: chars v
  | (k, v) :: f :: rest =>
    stringChars k.toList ++ ':' :: (chars v ++ ',' :: fieldsChars (f :: rest))

end

/-- The compact text of a value as a string. -/
def text (j : Json) : String := String.ofList j.chars

/-- The octets of the compact text of a value. -/
def octets (j : Json) : Bytes := Utf8.encode j.chars

end KatakanaLsp.Json
