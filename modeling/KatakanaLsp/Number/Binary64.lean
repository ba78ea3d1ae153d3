/-!
# Finite binary64 numbers, exactly

A finite 64-bit float is a sign and a product `mantissa * 2 ^ exponent` of integers, so every
operation here is arithmetic on natural numbers followed by one rounding: `ofRatio?` takes the
exact quotient of two naturals to the nearest float, a tie to the even mantissa, and refuses what
lies beyond the greatest finite one.

`ofDecimal?` gives `significand * 10 ^ exponent` its float in two rounded steps, first the
significand, then one product or quotient with a rounded power of ten.
-/

namespace KatakanaLsp

/-- A finite float: `mantissa * 2 ^ exponent`, negated if `negative`. The operations of this module
give the form with `mantissa < 2 ^ 53` and `-1074 ≤ exponent`, where `2 ^ 52 ≤ mantissa` unless the
exponent is the least. -/
structure Binary64 where
  negative : Bool
  mantissa : Nat
  exponent : Int
  deriving DecidableEq, Repr

namespace Binary64

/-- The least exponent; a smaller magnitude loses bits of its mantissa instead. -/
def minExponent : Int := -1074

/-- The greatest exponent of a finite float. -/
def maxExponent : Int := 971

/-- The least mantissa of 53 bits, `2 ^ 52`. -/
def leastNormal : Nat := 0x10000000000000

/-- Zero, of either sign. -/
def zero (negative : Bool) : Binary64 := ⟨negative, 0, minExponent⟩

/-- The quotient `a / b` as the nearest natural, a tie to the even one. -/
def roundDiv (a b : Nat) : Nat :=
  let q := a / b
  let r := a % b
  if b < 2 * r ∨ (2 * r = b ∧ q % 2 = 1) then q + 1 else q

/-- `num / den` in units of `2 ^ e`, rounded. -/
def inUnits (num den : Nat) (e : Int) : Nat :=
  if 0 ≤ e then roundDiv num (den <<< e.toNat) else roundDiv (num <<< (-e).toNat) den

/-- The exponent at which `num / den` has a mantissa of 53 bits, or the least exponent if that is
greater. The two logarithms leave a choice of two exponents, which one division decides. -/
def exponentFor (num den : Nat) : Int :=
  let e : Int := (num.log2 : Int) - den.log2 - 52
  let reaches := if 0 ≤ e then den * (leastNormal <<< e.toNat) ≤ num
    else den * leastNormal ≤ num <<< (-e).toNat
  max (if reaches then e else e - 1) minExponent

/-- The float nearest to `num / den`; none beyond the greatest finite one. -/
def ofRatio? (negative : Bool) (num den : Nat) : Option Binary64 :=
  if num = 0 then some (zero negative)
  else
    let e := exponentFor num den
    let m := inUnits num den e
    let x : Binary64 :=
      if m = 2 * leastNormal then ⟨negative, leastNormal, e + 1⟩ else ⟨negative, m, e⟩
    if maxExponent < x.exponent then none else some x

/-- The float nearest to a natural number. -/
def ofNat? (negative : Bool) (n : Nat) : Option Binary64 := ofRatio? negative n 1

/-- The float nearest to `a * 2 ^ e / b`. -/
def ofScaledRatio? (negative : Bool) (a b : Nat) (e : Int) : Option Binary64 :=
  if 0 ≤ e then ofRatio? negative (a <<< e.toNat) b
  else ofRatio? negative a (b <<< (-e).toNat)

/-- The rounded product. -/
def mul? (x y : Binary64) : Option Binary64 :=
  ofScaledRatio? (x.negative != y.negative) (x.mantissa * y.mantissa) 1 (x.exponent + y.exponent)

/-- The rounded quotient; the divisor is not zero. -/
def div? (x y : Binary64) : Option Binary64 :=
  ofScaledRatio? (x.negative != y.negative) x.mantissa y.mantissa (x.exponent - y.exponent)

/-- The greatest power of ten that is a finite float. -/
def maxPower : Nat := 308

/-- The float nearest to `10 ^ k`. -/
def tenTo? (k : Nat) : Option Binary64 := ofNat? false (Nat.pow 10 k)

/-- `x * 10 ^ e`. A power beyond the range of floats makes a zero stay zero and a large number
overflow; a small one is divided by `10 ^ 308` first, as often as it takes. -/
def scale? (x : Binary64) (e : Int) : Option Binary64 :=
  if e.natAbs ≤ maxPower then
    (tenTo? e.natAbs).bind fun p => if 0 ≤ e then x.mul? p else x.div? p
  else if x.mantissa = 0 then some x
  else if 0 ≤ e then none
  else ((tenTo? maxPower).bind x.div?).bind fun y => scale? y (e + maxPower)
termination_by e.natAbs
decreasing_by simp only [maxPower] at *; omega

/-- The float read for `significand * 10 ^ exponent`; none if it would not be finite. -/
def ofDecimal? (negative : Bool) (significand : Nat) (exponent : Int) : Option Binary64 :=
  (ofNat? false significand).bind fun x =>
    (x.scale? exponent).map fun y => { y with negative }

end Binary64

end KatakanaLsp
