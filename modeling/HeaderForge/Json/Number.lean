import HeaderForge.Decimal.Shortest

/-!
# JSON numbers

A number is kept as it is written. Written without point and exponent it denotes an integer, as long as
the integer fits 64 bits (and is not a negative zero); any other number denotes a 64-bit floating-point
value, or nothing when it is too large.

The floating-point value is not always the nearest one. The leading digits that fit 64 bits are taken
as an integer and rounded; the result is multiplied or divided once by a rounded power of ten, and
rounded again. Below the least power of ten it is first divided by the greatest.
-/

namespace HeaderForge.Json

open Binary (Fraction doubleFormat Double Single)
open Decimal (ExponentStyle Numeral Layout Scientific)

/-- A number as written. -/
structure Number where
  /-- Whether it starts with a minus sign. -/
  negative : Bool
  /-- What follows the sign. -/
  numeral : Numeral
deriving DecidableEq, Repr

/-- What a number denotes. -/
inductive Quantity where
  /-- An integer of 64 bits, signed or unsigned. -/
  | integer (value : Int)
  /-- A floating-point value. -/
  | floating (value : Double)
  /-- Nothing: the number is too large. -/
  | tooLarge
deriving DecidableEq, Repr

/-- One more than the greatest leading part of a number that is kept. -/
def significandLimit : Nat := UInt64.size

/-- The value of a decimal digit. -/
def digitValue (digit : Char) : Nat := digit.toNat - '0'.toNat

/-- The leading part of a number: an integer, and the power of ten it is to be scaled by. -/
structure Leading where
  /-- The integer of the digits kept. -/
  significand : Nat
  /-- The power of ten. -/
  exponent : Int
deriving DecidableEq, Repr

namespace Leading

/-- Reads the digits before the point. From the first digit that no longer fits, digits only count. -/
def ofWhole : List Char → Nat → Leading
  | [], significand => ⟨significand, 0⟩
  | digit :: rest, significand =>
    let next := significand * 10 + digitValue digit
    if next < significandLimit then ofWhole rest next
    else ⟨significand, rest.length + 1⟩

/-- Reads the digits after the point, up to the first that no longer fits. -/
def addFraction : Leading → List Char → Leading
  | leading, [] => leading
  | leading, digit :: rest =>
    let next := leading.significand * 10 + digitValue digit
    if next < significandLimit then addFraction ⟨next, leading.exponent - 1⟩ rest
    else leading

end Leading

/-- The exact value of the 64-bit number nearest to a fraction, unless that is infinite. -/
def roundedFraction (value : Fraction) : Option Fraction :=
  match doubleFormat.round false value with
  | .finite _ significand exponent => some (.scaled significand exponent)
  | _ => none

/-- The greatest power of ten with a finite 64-bit value. -/
def greatestPower : Nat := 308

/-- Scales a 64-bit value by a power of ten, rounding after each step. The number of divisions is
bounded: after three nothing is left of any significand of 64 bits. -/
def scaleByTen (value : Fraction) (exponent : Int) : Nat → Option Fraction
  | 0 => some ⟨0, 1⟩
  | steps + 1 =>
    if exponent.natAbs ≤ greatestPower then do
      let power ← roundedFraction ⟨Nat.pow 10 exponent.natAbs, 1⟩
      roundedFraction (if 0 ≤ exponent then value.mul power else value.div power)
    else if value.numerator = 0 then
      some value
    else if 0 ≤ exponent then
      none
    else do
      let power ← roundedFraction ⟨Nat.pow 10 greatestPower, 1⟩
      let value ← roundedFraction (value.div power)
      scaleByTen value (exponent + greatestPower) steps

/-- The floating-point value of a leading part, scaled by a further power of ten. -/
def Leading.toQuantity (leading : Leading) (negative : Bool) (exponent : Int) : Quantity :=
  match roundedFraction ⟨leading.significand, 1⟩ with
  | none => .tooLarge
  | some value =>
    match scaleByTen value (leading.exponent + exponent) 4 with
    | none => .tooLarge
    | some value => .floating (.ofDatum (doubleFormat.round negative value))

namespace Number

/-- What the number denotes. -/
def quantity (number : Number) : Quantity :=
  let leading := Leading.ofWhole number.numeral.whole 0
  let isInteger :=
    number.numeral.fraction.isEmpty && number.numeral.exponent.isNone && leading.exponent == 0
  if isInteger then
    if !number.negative then
      .integer leading.significand
    else if leading.significand = 0 ∨ 2 * leading.significand > significandLimit then
      .floating (.ofDatum (doubleFormat.round true ⟨leading.significand, 1⟩))
    else
      .integer (-leading.significand)
  else
    (leading.addFraction number.numeral.fraction).toQuantity number.negative
      (number.numeral.exponent.getD 0)

/-- The number of an integer. -/
def ofInt (value : Int) : Number :=
  ⟨value < 0, ⟨Nat.toDigits 10 value.natAbs, [], none⟩⟩

/-- 64-bit numbers are written in full from a hundred-thousandth up to sixteen digits before the point. -/
def doubleLayout : Layout := ⟨-5, 15, false⟩

/-- 32-bit numbers are written in full from a millionth up to thirteen digits before the point. -/
def singleLayout : Layout := ⟨-6, 12, false⟩

/-- The shortest number for a floating-point datum, if it is finite. -/
def ofDatum? (format : Binary.Format) (layout : Layout) : Binary.Datum → Option Number
  | .finite negative significand exponent =>
    if significand = 0 then some ⟨negative, .zero⟩
    else some ⟨negative, (Decimal.shortest format .toEven significand exponent).layOut layout⟩
  | _ => none

/-- The number for a 64-bit value, if it is finite. -/
def ofDouble? (value : Double) : Option Number :=
  ofDatum? doubleFormat doubleLayout value.datum

/-- The number for a 32-bit value, if it is finite. -/
def ofSingle? (value : Single) : Option Number :=
  ofDatum? Binary.singleFormat singleLayout value.datum

/-- Exponents follow a small letter and always have a sign. -/
def exponentStyle : ExponentStyle := ⟨'e', true⟩

/-- The characters of the number. -/
def chars (number : Number) : List Char :=
  Decimal.signed number.negative (number.numeral.chars exponentStyle)

end Number

end HeaderForge.Json
