import KatakanaLsp.Json.Basic
import KatakanaLsp.Text.Decimal

/-!
# Reading JSON

`parse?` reads a text that is one value between blanks, by the grammar of RFC 8259 and nothing
beyond it, with arrays and objects nested at most `maxDepth` deep. Recursion goes down that depth,
and along an array or object it is bounded by the length of the text left.

Numerals without a point and an exponent stay integers as far as 64 bits reach. Any other is a
float, read from the leading digits that fit 64 bits and a power of ten; one beyond the finite
floats is refused.
-/

namespace KatakanaLsp.Json

/-- The four blanks that may stand between tokens. -/
def isSpace (c : Char) : Bool := c == ' ' || c == '\t' || c == '\n' || c == '\r'

/-- A text without the blanks in front. -/
def skip (s : List Char) : List Char := s.dropWhile isSpace

/-! ## Numerals -/

/-- Takes digits into a number as long as it stays within 64 bits, and returns those left. -/
def absorb (n : Nat) : List Char → Nat × List Char
  | [] => (n, [])
  | c :: ds =>
    let n' := n * 10 + Decimal.digitValue c
    if n' ≤ Decimal.max64 then absorb n' ds else (n, c :: ds)

/-- The number of a sign and a run of digits. Beyond 64 bits it is a float, as is minus zero. -/
def wholeNumber? (negative : Bool) (whole : List Char) : Option JsonNumber :=
  match absorb 0 whole with
  | (n, []) =>
    if !negative then some (.int n)
    else if 0 < n ∧ n ≤ Decimal.maxSigned64 + 1 then some (.int (-(n : Int)))
    else (Binary64.ofNat? true n).map .float
  | (n, left) => (Binary64.ofDecimal? negative n left.length).map .float

/-- The number of a sign, the digits before and after a point, and an exponent. Digits before the
point that no longer fit count as factors of ten; those after it are left out. -/
def fractionalNumber? (negative : Bool) (whole fraction : List Char) (exponent : Int) :
    Option JsonNumber :=
  let (n, left) := absorb 0 whole
  let (m, unread) := absorb n fraction
  let places : Int := (fraction.length : Int) - unread.length
  (Binary64.ofDecimal? negative m (left.length - places + exponent)).map .float

/-- One or more digits at the front of a text, and what follows them. -/
def digits? (s : List Char) : Option (List Char × List Char) :=
  match s.takeWhile Decimal.isDigit with
  | [] => none
  | ds => some (ds, s.dropWhile Decimal.isDigit)

/-- The digits before the point: a zero alone, or a run that begins with another digit. -/
def whole? (s : List Char) : Option (List Char × List Char) :=
  match s with
  | '0' :: r => some (['0'], r)
  | s => digits? s

/-- A fraction, if a point follows. -/
def fraction? (s : List Char) : Option (Option (List Char) × List Char) :=
  match s with
  | '.' :: r => (digits? r).map fun p => (some p.1, p.2)
  | s => some (none, s)

/-- The sign of an exponent, if one is written, and the digits of it. -/
def exponentBody? (s : List Char) : Option (Int × List Char) :=
  match s with
  | '+' :: r => (digits? r).map fun p => ((Decimal.valueOf p.1 : Int), p.2)
  | '-' :: r => (digits? r).map fun p => (-(Decimal.valueOf p.1 : Int), p.2)
  | r => (digits? r).map fun p => ((Decimal.valueOf p.1 : Int), p.2)

/-- An exponent, if its mark follows. -/
def exponent? (s : List Char) : Option (Option Int × List Char) :=
  match s with
  | 'e' :: r => (exponentBody? r).map fun p => (some p.1, p.2)
  | 'E' :: r => (exponentBody? r).map fun p => (some p.1, p.2)
  | s => some (none, s)

/-- A numeral after its sign. -/
def unsignedNumber? (negative : Bool) (s : List Char) : Option (Json × List Char) := do
  let (whole, s) ← whole? s
  let (fraction, s) ← fraction? s
  let (exponent, s) ← exponent? s
  let n ← match fraction, exponent with
    | none, none => wholeNumber? negative whole
    | f, e => fractionalNumber? negative whole (f.getD []) (e.getD 0)
  return (.number n, s)

/-! ## Strings -/

/-- The value of four hexadecimal digits. -/
def hex4? (a b c d : Char) : Option Nat :=
  let digit (c : Char) : Option Nat :=
    if Decimal.isDigit c then some (c.toNat - 48)
    else if 'a' ≤ c && c ≤ 'f' then some (c.toNat - 87)
    else if 'A' ≤ c && c ≤ 'F' then some (c.toNat - 55)
    else none
  do return (((← digit a) * 16 + (← digit b)) * 16 + (← digit c)) * 16 + (← digit d)

/-- The character of a one-letter escape. -/
def shortEscape? (c : Char) : Option Char :=
  match c with
  | '"' => some '"'
  | '\\' => some '\\'
  | '/' => some '/'
  | 'b' => some '\x08'
  | 'f' => some '\x0c'
  | 'n' => some '\n'
  | 'r' => some '\r'
  | 't' => some '\t'
  | _ => none

/-- The first half of a surrogate pair. -/
def isHigh (n : Nat) : Bool := 0xD800 ≤ n && n ≤ 0xDBFF

/-- The second half of a surrogate pair. -/
def isLow (n : Nat) : Bool := 0xDC00 ≤ n && n ≤ 0xDFFF

/-- The character of a surrogate pair. -/
def pairChar (high low : Nat) : Char :=
  Char.ofNat (0x10000 + (high - 0xD800) * 0x400 + (low - 0xDC00))

/-- The characters of a string literal after its opening quote, and what follows the closing one.
Controls must be escaped, and surrogates must come in pairs. -/
def stringBody? : List Char → Option (List Char × List Char)
  | [] => none
  | '"' :: r => some ([], r)
  | '\\' :: 'u' :: a :: b :: c :: d :: r =>
    match hex4? a b c d with
    | none => none
    | some n =>
      if isLow n then none
      else if isHigh n then
        match r with
        | '\\' :: 'u' :: e :: f :: g :: h :: r' =>
          match (hex4? e f g h).filter isLow with
          | none => none
          | some m => (stringBody? r').map fun p => (pairChar n m :: p.1, p.2)
        | _ => none
      else (stringBody? r).map fun p => (Char.ofNat n :: p.1, p.2)
  | '\\' :: c :: r =>
    match shortEscape? c with
    | none => none
    | some x => (stringBody? r).map fun p => (x :: p.1, p.2)
  | c :: r => if c.toNat < 0x20 || c == '\\' then none
    else (stringBody? r).map fun p => (c :: p.1, p.2)

/-! ## Values -/

/-- A value that is neither an array nor an object. -/
def readScalar? (s : List Char) : Option (Json × List Char) :=
  match s with
  | 'n' :: 'u' :: 'l' :: 'l' :: r => some (.null, r)
  | 't' :: 'r' :: 'u' :: 'e' :: r => some (.bool true, r)
  | 'f' :: 'a' :: 'l' :: 's' :: 'e' :: r => some (.bool false, r)
  | '"' :: r => (stringBody? r).map fun p => (.string (String.ofList p.1), p.2)
  | '-' :: r => unsignedNumber? true r
  | r => unsignedNumber? false r

/-- The items of an array from the first on, up to and over the closing bracket. -/
def readItems? (value : List Char → Option (Json × List Char)) :
    Nat → List Char → Option (List Json × List Char)
  | 0, _ => none
  | fuel + 1, s =>
    match value s with
    | none => none
    | some (v, r) =>
      match skip r with
      | ',' :: r' => (readItems? value fuel (skip r')).map fun p => (v :: p.1, p.2)
      | ']' :: r' => some ([v], r')
      | _ => none

/-- The fields of an object from the first on, up to and over the closing brace. -/
def readFields? (value : List Char → Option (Json × List Char)) :
    Nat → List Char → Option (List (String × Json) × List Char)
  | 0, _ => none
  | fuel + 1, s =>
    match s with
    | '"' :: r =>
      match stringBody? r with
      | none => none
      | some (k, r) =>
        match skip r with
        | ':' :: r =>
          match value (skip r) with
          | none => none
          | some (v, r) =>
            match skip r with
            | ',' :: r' =>
              (readFields? value fuel (skip r')).map fun p => ((String.ofList k, v) :: p.1, p.2)
            | '\x7d' :: r' => some ([(String.ofList k, v)], r')
            | _ => none
        | _ => none
    | _ => none

/-- A value at the front of a text that begins with no blank, with `depth` levels of nesting left,
and what follows it. -/
def readValue? : Nat → List Char → Option (Json × List Char)
  | 0, s => readScalar? s
  | depth + 1, s =>
    match s with
    | '[' :: r =>
      match skip r with
      | ']' :: r' => some (.array [], r')
      | r' => (readItems? (readValue? depth) r'.length r').map fun p => (.array p.1, p.2)
    | '\x7b' :: r =>
      match skip r with
      | '\x7d' :: r' => some (.object [], r')
      | r' => (readFields? (readValue? depth) r'.length r').map fun p => (.object p.1, p.2)
    | s => readScalar? s

/-- The greatest depth of nesting that is read. -/
def maxDepth : Nat := 127

/-- The value that a text writes, nested at most `depth` deep. -/
def parseWithin? (depth : Nat) (s : List Char) : Option Json :=
  match readValue? depth (skip s) with
  | some (v, r) => if skip r = [] then some v else none
  | none => none

/-- The value at the front of a text, and what follows it. -/
def parseFront? (s : List Char) : Option (Json × List Char) := readValue? maxDepth (skip s)

/-- The value that a text writes. -/
def parse? (s : List Char) : Option Json := parseWithin? maxDepth s

end KatakanaLsp.Json
