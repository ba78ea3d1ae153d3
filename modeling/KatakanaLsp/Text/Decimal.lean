/-!
# Decimal numerals

`digits` writes a natural number, `ofDigits?` reads one back, and `unsigned64?` is the reading
that header values get: an optional `+`, then digits, and at most `2 ^ 64 - 1`.
-/

namespace KatakanaLsp.Decimal

/-- The digit for `d < 10`. -/
def digitChar (d : Nat) : Char := Char.ofNat (48 + d)

/-- The decimal digits of a number, without leading zeros (`0` has one digit). -/
def digits (n : Nat) : List Char :=
  if n < 10 then [digitChar n] else digits (n / 10) ++ [digitChar (n % 10)]
termination_by n

/-- The digits of a number, with zeros in front up to `width` digits. -/
def padded (width n : Nat) : List Char :=
  let ds := digits n
  List.replicate (width - ds.length) '0' ++ ds

/-- The number as a string. -/
def text (n : Nat) : String := String.ofList (digits n)

/-- An integer as a string, with `-` before a negative one. -/
def intText (i : Int) : String :=
  if i < 0 then "-" ++ text i.natAbs else text i.natAbs

/-- An ASCII digit. -/
def isDigit (c : Char) : Bool := '0' ≤ c && c ≤ '9'

/-- The value of an ASCII digit. -/
def digitValue (c : Char) : Nat := c.toNat - 48

/-- The value of a run of digits, the most significant first. -/
def valueOf (ds : List Char) : Nat := ds.foldl (fun n c => n * 10 + digitValue c) 0

/-- The number that one or more digits write; any other text writes none. -/
def ofDigits? (s : List Char) : Option Nat :=
  if s ≠ [] ∧ s.all isDigit then some (valueOf s) else none

/-- The greatest number of 64 bits, `2 ^ 64 - 1`. -/
def max64 : Nat := 0xFFFFFFFFFFFFFFFF

/-- The greatest number of 64 bits of which one is the sign, `2 ^ 63 - 1`. -/
def maxSigned64 : Nat := 0x7FFFFFFFFFFFFFFF

/-- A number of 64 bits: an optional `+`, then digits. -/
def unsigned64? (s : List Char) : Option Nat :=
  let body := match s with
    | '+' :: r => r
    | r => r
  (ofDigits? body).filter (· ≤ max64)

end KatakanaLsp.Decimal
