import HeaderForge.Decimal.Shortest
import HeaderForge.Model.Constant

/-!
# Literals

How constants are written in the target language. The least integers have no plain literal, because a
minus sign is applied to a literal that is already too large; they are written as hexadecimal patterns
converted to their type. Floating-point values that have a macro are written by it, others as the fewest
decimal digits that read back; of two equally near the greater is taken.
-/

namespace HeaderForge.Header

open Binary (Datum Format singleFormat doubleFormat)
open Decimal (ExponentStyle Layout)

/-- Numbers are written in full from a thousandth up to seven digits before the point. -/
def literalLayout : Layout := ⟨-3, 6, true⟩

/-- Exponents follow a capital letter. -/
def literalExponent : ExponentStyle := ⟨'E', false⟩

/-- A floating-point datum in decimal digits; what is not finite has a name instead. -/
def decimalText (format : Format) : Datum → String
  | .nan => "NaN"
  | .infinite _ => "inf"
  | .finite negative significand exponent =>
    let numeral :=
      if significand = 0 then Decimal.Numeral.zero
      else (Decimal.shortest format .up significand exponent).layOut literalLayout
    String.ofList (Decimal.signed negative (numeral.chars literalExponent))

/-- The macros for special values of a floating-point type, and what ends its literals. -/
structure FloatingNames where
  /-- The greatest finite value. -/
  greatest : String
  /-- The least positive value written with all digits. -/
  leastNormal : String
  /-- The end of literals. -/
  ending : String

/-- The greatest finite datum of a format. -/
def greatestDatum (format : Format) : Datum :=
  .finite false (2 * format.fractionCount - 1) format.greatestExponent

/-- The least positive datum of a format with a significand of full length. -/
def leastNormalDatum (format : Format) : Datum :=
  .finite false format.fractionCount format.leastExponent

/-- A floating-point datum as a literal. -/
def floatingLiteral (format : Format) (names : FloatingNames) (datum : Datum) : String :=
  match datum with
  | .nan => "NAN"
  | .infinite negative => if negative then "-INFINITY" else "INFINITY"
  | .finite _ _ _ =>
    if datum = greatestDatum format then names.greatest
    else if datum = leastNormalDatum format then names.leastNormal
    else decimalText format datum ++ names.ending

/-- The names for 32-bit values. -/
def singleNames : FloatingNames := ⟨"__FLT_MAX__", "__FLT_MIN__", "f"⟩

/-- The names for 64-bit values. -/
def doubleNames : FloatingNames := ⟨"__DBL_MAX__", "__DBL_MIN__", ""⟩

/-- Four digits of a number in lower-case hexadecimal. -/
def hexUnit (code : Nat) : List Char :=
  let digits := Nat.toDigits 16 code
  List.replicate (4 - digits.length) '0' ++ digits

/-- A unit of text as a literal: printable characters between quotes, the rest as numbers. -/
def charLiteral (code : Nat) : String :=
  if code = 0x27 then "'\\''"
  else if code = 0x5C then "'\\\\'"
  else if 0x20 ≤ code ∧ code ≤ 0x7E then String.ofList ['\'', Char.ofNat code, '\'']
  else String.ofList ('0' :: 'x' :: hexUnit code)

/-- An integer in decimal digits. -/
def integerText (value : Int) : String := String.ofList (Decimal.integerDigits value)

/-- A constant as a literal. -/
def literal : Constant → String
  | .boolean value => if value then "TRUE" else "FALSE"
  | .char value => charLiteral value.toNat
  | .byte value => integerText value.toInt
  | .short value => integerText value.toInt
  | .int value =>
    if value = Int32.minValue then "((int) 0x80000000)" else integerText value.toInt
  | .long value =>
    if value = Int64.minValue then "((long long) 0x8000000000000000LL)"
    else integerText value.toInt ++ "LL"
  | .float value => floatingLiteral singleFormat singleNames value.datum
  | .double value => floatingLiteral doubleFormat doubleNames value.datum
  | .string value => value

/-- The decimal digits of a floating-point constant. -/
def decimalText? : Constant → Option String
  | .float value => some (decimalText singleFormat value.datum)
  | .double value => some (decimalText doubleFormat value.datum)
  | _ => none

end HeaderForge.Header
