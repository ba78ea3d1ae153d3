import KatakanaLsp.Number.Binary64
import KatakanaLsp.Text.Decimal

/-!
# The shortest decimal that reads back

A float is written with the fewest significant digits that still single it out: `shortest?`
tries the decimal grids of one, two, three … seventeen digits and takes the first that has a point
among the reals which round to the float, the nearer point if there are two.

`floatText` lays those digits out: a plain decimal with at least one place from `1e-5` up to below
`1e16`, and digits with a signed exponent outside.
-/

namespace KatakanaLsp

/-- `digits * 10 ^ exponent`. -/
structure Decimal10 where
  digits : Nat
  exponent : Int
  deriving DecidableEq, Repr

namespace Binary64

/-- The reals that round to a float, as multiples of a quarter of its last bit: four times the
mantissa, with the two ends. The lower end is nearer where the mantissa is the least of 53 bits,
because the floats below lie twice as dense. -/
structure Neighbourhood where
  value : Nat
  low : Nat
  high : Nat
  endsIncluded : Bool

/-- Ties go to the even mantissa, so the ends belong to the float exactly if its own is even. -/
def neighbourhood (x : Binary64) : Neighbourhood where
  value := 4 * x.mantissa
  low := if x.mantissa = leastNormal ∧ minExponent < x.exponent then 4 * x.mantissa - 1
    else 4 * x.mantissa - 2
  high := 4 * x.mantissa + 2
  endsIncluded := x.mantissa % 2 = 0

/-- The exponents of a decimal grid and of the float brought to one scale: the float counts
`floatUnit` per quarter bit and the grid `gridUnit` per point. -/
def commonUnits (x : Binary64) (gridExponent : Int) : Nat × Nat :=
  let e := x.exponent - 2
  (Nat.pow 10 (-gridExponent).toNat <<< e.toNat, Nat.pow 10 gridExponent.toNat <<< (-e).toNat)

/-- The point of the grid `10 ^ gridExponent` that stands for a float, if one of the float's two
neighbours on the grid does. -/
def onGrid? (x : Binary64) (gridExponent : Int) : Option Nat :=
  let n := x.neighbourhood
  let (floatUnit, gridUnit) := x.commonUnits gridExponent
  let value := n.value * floatUnit
  let inside (d : Nat) : Bool :=
    let p := d * gridUnit
    if n.endsIncluded then n.low * floatUnit ≤ p && p ≤ n.high * floatUnit
    else n.low * floatUnit < p && p < n.high * floatUnit
  let below := value / gridUnit
  let above := below + 1
  match inside below, inside above with
  | true, true =>
    let down := value - below * gridUnit
    let up := above * gridUnit - value
    if down < up ∨ (down = up ∧ below % 2 = 0) then some below else some above
  | true, false => some below
  | false, true => some above
  | false, false => none

/-- Whether the magnitude of a float is at least `10 ^ k`. -/
def reachesTen (x : Binary64) (k : Int) : Bool :=
  Nat.pow 10 k.toNat <<< (-x.exponent).toNat
    ≤ (x.mantissa * Nat.pow 10 (-k).toNat) <<< x.exponent.toNat

/-- The number of digits before the decimal point: `10 ^ (k - 1) ≤ |x| < 10 ^ k`. The binary
logarithm gives it up to one. -/
def decimalWidth (x : Binary64) : Int :=
  let estimate : Int := ((x.mantissa.log2 + x.exponent) * 1233).fdiv 4096
  if x.reachesTen (estimate + 1) then estimate + 2
  else if x.reachesTen estimate then estimate + 1
  else estimate

/-- A decimal without trailing zeros in its digits. -/
def stripZeros : Nat → Decimal10 → Decimal10
  | 0, d => d
  | fuel + 1, d =>
    if d.digits ≠ 0 ∧ d.digits % 10 = 0 then stripZeros fuel ⟨d.digits / 10, d.exponent + 1⟩ else d

/-- The first grid of at most `count` digits, coarsest first, with a point for the float. -/
def firstGrid? (x : Binary64) (width : Int) : List Nat → Option Decimal10
  | [] => none
  | count :: more =>
    match x.onGrid? (width - count) with
    | some d => some ⟨d, width - count⟩
    | none => firstGrid? x width more

/-- The shortest decimal of a float other than zero: seventeen digits always suffice. -/
def shortest? (x : Binary64) : Option Decimal10 :=
  (x.firstGrid? x.decimalWidth ((List.range 17).map (· + 1))).map (stripZeros 17)

/-- Digits with the point after the first `width` of them. -/
def plainText (ds : List Char) (width : Int) : List Char :=
  let n := ds.length
  if width ≤ 0 then '0' :: '.' :: List.replicate (-width).toNat '0' ++ ds
  else if (n : Int) ≤ width then ds ++ List.replicate (width.toNat - n) '0' ++ ['.', '0']
  else ds.take width.toNat ++ '.' :: ds.drop width.toNat

/-- Digits with the point after the first of them, and the exponent with its sign. -/
def scientificText (ds : List Char) (exponent : Int) : List Char :=
  let mark := if exponent < 0 then ['e', '-'] else ['e', '+']
  let body := match ds with
    | d :: [] => [d]
    | d :: more => d :: '.' :: more
    | [] => []
  body ++ mark ++ Decimal.digits exponent.natAbs

/-- The text of a float: plain from `1e-5` up to below `1e16`, else with an exponent. -/
def text (x : Binary64) : List Char :=
  let sign := if x.negative then ['-'] else []
  match (if x.mantissa = 0 then none else x.shortest?) with
  | none => sign ++ ['0', '.', '0']
  | some d =>
    let ds := Decimal.digits d.digits
    let width := (ds.length : Int) + d.exponent
    sign ++ (if -5 < width ∧ width ≤ 16 then plainText ds width else scientificText ds (width - 1))

end Binary64

end KatakanaLsp
