import HeaderForge.Binary.Format

/-!
# Rounding to a binary format

Every result is the value of the format nearest to an exact fraction, and of two equally near the one
with the even significand. Beyond the greatest finite value the result is infinite.
-/

namespace HeaderForge.Binary

/-- An exact nonnegative fraction. -/
structure Fraction where
  /-- What is divided. -/
  numerator : Nat
  /-- What it is divided by. -/
  denominator : Nat
deriving DecidableEq, Repr

namespace Fraction

/-- The fraction `significand * 2 ^ exponent`. -/
def scaled (significand : Nat) (exponent : Int) : Fraction :=
  if 0 ≤ exponent then ⟨significand * Nat.pow 2 exponent.toNat, 1⟩
  else ⟨significand, Nat.pow 2 (-exponent).toNat⟩

/-- The product of two fractions. -/
def mul (left right : Fraction) : Fraction :=
  ⟨left.numerator * right.numerator, left.denominator * right.denominator⟩

/-- The quotient of two fractions. -/
def div (left right : Fraction) : Fraction :=
  ⟨left.numerator * right.denominator, left.denominator * right.numerator⟩

/-- The fraction divided by a power of two. -/
def overPower (value : Fraction) (exponent : Int) : Fraction :=
  value.div (scaled 1 exponent)

/-- The nearest natural number, of two equally near the even one. -/
def nearestEven (value : Fraction) : Nat :=
  let quotient := value.numerator / value.denominator
  let rest := value.numerator % value.denominator
  if 2 * rest > value.denominator ∨ 2 * rest = value.denominator ∧ quotient % 2 = 1 then
    quotient + 1
  else
    quotient

end Fraction

namespace Format

/-- The exponent with which a format writes values of the size of a fraction: the least with which the
whole part of the significand fits. -/
def exponentFor (format : Format) (value : Fraction) : Int :=
  if value.numerator = 0 then format.leastExponent else
  let size : Int := (Nat.log2 value.numerator : Int) - Nat.log2 value.denominator
  let low := max format.leastExponent (size - 1 - format.fractionBits)
  let shifted := value.overPower low
  if shifted.numerator / shifted.denominator < 2 * format.fractionCount then low else low + 1

/-- The value of the format nearest to a fraction, with the given sign. -/
def round (format : Format) (negative : Bool) (value : Fraction) : Datum :=
  let exponent := format.exponentFor value
  let significand := (value.overPower exponent).nearestEven
  let carried := significand = 2 * format.fractionCount
  let significand := if carried then format.fractionCount else significand
  let exponent := if carried then exponent + 1 else exponent
  if exponent > format.greatestExponent then .infinite negative
  else .finite negative significand exponent

/-- A datum of any format rounded to this one. -/
def convert (format : Format) : Datum → Datum
  | .nan => .nan
  | .infinite negative => .infinite negative
  | .finite negative significand exponent =>
    format.round negative (.scaled significand exponent)

end Format

/-- The 32-bit number nearest to a 64-bit one. -/
def Double.toSingle (value : Double) : Single :=
  .ofDatum (singleFormat.convert value.datum)

/-- The 32-bit number nearest to an integer. -/
def Single.ofInt (value : Int) : Single :=
  .ofDatum (singleFormat.round (value < 0) ⟨value.natAbs, 1⟩)

/-- The 64-bit number nearest to an integer. -/
def Double.ofInt (value : Int) : Double :=
  .ofDatum (doubleFormat.round (value < 0) ⟨value.natAbs, 1⟩)

end HeaderForge.Binary
