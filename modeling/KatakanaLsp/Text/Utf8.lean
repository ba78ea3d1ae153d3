/-!
# UTF-8 over octet lists

`scan` reads a list of octets as a sequence of characters and *faults*: a fault stands for a
maximal invalid subpart, the longest stretch that begins like a character and cannot be finished.
Two readings share it: `decode?` refuses a text with any fault, and `decodeLossy` writes
U+FFFD for each. `encode` is the way back.
-/

namespace KatakanaLsp

/-- A stretch of octets. -/
abbrev Bytes := List UInt8

namespace Utf8

/-- The octets of a text. -/
def encode (s : List Char) : Bytes := s.flatMap String.utf8EncodeChar

/-- The octets of a string. -/
def ofString (s : String) : Bytes := encode s.toList

/-- An octet `10xxxxxx`, which continues a character. -/
def isTail (b : UInt8) : Bool := 0x80 ≤ b && b ≤ 0xBF

/-- The second octets that may follow `a` in a character of three: the range is narrower after
`E0`, where a smaller one would be an overlong form, and after `ED`, where a greater one would be
a surrogate. -/
def secondOfThree (a b : UInt8) : Bool :=
  if a = 0xE0 then 0xA0 ≤ b && b ≤ 0xBF
  else if a = 0xED then 0x80 ≤ b && b ≤ 0x9F
  else isTail b

/-- The second octets that may follow `a` in a character of four: narrower after `F0` (overlong
forms) and after `F4` (beyond U+10FFFF). -/
def secondOfFour (a b : UInt8) : Bool :=
  if a = 0xF0 then 0x90 ≤ b && b ≤ 0xBF
  else if a = 0xF4 then 0x80 ≤ b && b ≤ 0x8F
  else isTail b

/-- The low six bits of a continuing octet. -/
def low6 (b : UInt8) : Nat := b.toNat % 64

/-- The character written in two octets. -/
def char2 (a b : UInt8) : Char := Char.ofNat (a.toNat % 32 * 64 + low6 b)

/-- The character written in three octets. -/
def char3 (a b c : UInt8) : Char := Char.ofNat (a.toNat % 16 * 4096 + low6 b * 64 + low6 c)

/-- The character written in four octets. -/
def char4 (a b c d : UInt8) : Char :=
  Char.ofNat (a.toNat % 8 * 262144 + low6 b * 4096 + low6 c * 64 + low6 d)

/-- The characters and faults of a stretch of octets, first to last. The octet that breaks a
character off is read again as the beginning of the next. -/
def scan : Bytes → List (Option Char)
  | [] => []
  | a :: s =>
    if a < 0x80 then some (Char.ofNat a.toNat) :: scan s
    else if 0xC2 ≤ a && a ≤ 0xDF then
      match s with
      | [] => [none]
      | b :: s₁ => if isTail b then some (char2 a b) :: scan s₁ else none :: scan (b :: s₁)
    else if 0xE0 ≤ a && a ≤ 0xEF then
      match s with
      | [] => [none]
      | b :: s₁ =>
        if secondOfThree a b then
          match s₁ with
          | [] => [none]
          | c :: s₂ => if isTail c then some (char3 a b c) :: scan s₂ else none :: scan (c :: s₂)
        else none :: scan (b :: s₁)
    else if 0xF0 ≤ a && a ≤ 0xF4 then
      match s with
      | [] => [none]
      | b :: s₁ =>
        if secondOfFour a b then
          match s₁ with
          | [] => [none]
          | c :: s₂ =>
            if isTail c then
              match s₂ with
              | [] => [none]
              | d :: s₃ =>
                if isTail d then some (char4 a b c d) :: scan s₃ else none :: scan (d :: s₃)
            else none :: scan (c :: s₂)
        else none :: scan (b :: s₁)
    else none :: scan s

/-- The text that octets are the encoding of, if they are one. -/
def decode? (b : Bytes) : Option (List Char) := (scan b).mapM id

/-- The text of arbitrary octets, with U+FFFD for each fault. -/
def decodeLossy (b : Bytes) : List Char := (scan b).map (·.getD '\uFFFD')

/-- The character at the front of octets, if they begin with one. None has more than four. -/
def first? (b : Bytes) : Option Char := (scan (b.take 4)).head?.join

/-- `decode?` with a string for its answer. -/
def toString? (b : Bytes) : Option String := (decode? b).map String.ofList

/-- `decodeLossy` with a string for its answer. -/
def toStringLossy (b : Bytes) : String := String.ofList (decodeLossy b)

end Utf8

end KatakanaLsp
