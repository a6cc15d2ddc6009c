/-!
# Decimal numerals

A positive decimal number is held in scientific form: its significant digits, with the point after the
first, and a power of ten. A layout says for which powers the number is written out in full and how
it is written otherwise. Laying out never changes the digits; it only adds zeros, a point and the
exponent.
-/

namespace HeaderForge.Decimal

/-- A number `d.ddd… * 10 ^ exponent`. -/
structure Scientific where
  /-- The significant digits, the first of them before the point. -/
  digits : List Char
  /-- The power of ten. -/
  exponent : Int
deriving DecidableEq, Repr

/-- A numeral as written: digits before the point, digits after it, and the exponent, if it has one.
There is no point when no digits follow it. -/
structure Numeral where
  /-- The digits before the point. -/
  whole : List Char
  /-- The digits after the point. -/
  fraction : List Char
  /-- The exponent. -/
  exponent : Option Int
deriving DecidableEq, Repr

/-- How numbers are written. -/
structure Layout where
  /-- The least power of ten that is written out in full. -/
  leastPlain : Int
  /-- The greatest power of ten that is written out in full. -/
  greatestPlain : Int
  /-- Whether a single digit before an exponent is followed by a point and a zero. -/
  keepsPoint : Bool
deriving DecidableEq, Repr

/-- Decimal digits of an integer, after a minus sign if it is negative. -/
def integerDigits (value : Int) : List Char :=
  if value < 0 then '-' :: Nat.toDigits 10 value.natAbs else Nat.toDigits 10 value.natAbs

namespace Scientific

/-- The number written out in full, with at least one digit on each side of the point. -/
def plain (number : Scientific) : Numeral :=
  if 0 ≤ number.exponent then
    let places := number.exponent.toNat + 1
    if number.digits.length ≤ places then
      ⟨number.digits ++ List.replicate (places - number.digits.length) '0', ['0'], none⟩
    else
      ⟨number.digits.take places, number.digits.drop places, none⟩
  else
    ⟨['0'], List.replicate (-number.exponent - 1).toNat '0' ++ number.digits, none⟩

/-- The number written with an exponent and one digit before the point. -/
def withExponent (keepsPoint : Bool) (number : Scientific) : Numeral :=
  let fraction := number.digits.drop 1
  ⟨number.digits.take 1, if keepsPoint && fraction.isEmpty then ['0'] else fraction,
    some number.exponent⟩

/-- The number written as a layout asks. -/
def layOut (layout : Layout) (number : Scientific) : Numeral :=
  if layout.leastPlain ≤ number.exponent ∧ number.exponent ≤ layout.greatestPlain then
    number.plain
  else
    number.withExponent layout.keepsPoint

end Scientific

/-- How exponents are written. -/
structure ExponentStyle where
  /-- The character before an exponent. -/
  mark : Char
  /-- Whether an exponent that is not negative has a plus sign. -/
  hasPlus : Bool
deriving DecidableEq, Repr

/-- The characters of an exponent. -/
def ExponentStyle.chars (style : ExponentStyle) (exponent : Int) : List Char :=
  let plus := if style.hasPlus && decide (0 ≤ exponent) then ['+'] else []
  style.mark :: plus ++ integerDigits exponent

/-- The characters of a numeral. -/
def Numeral.chars (style : ExponentStyle) (numeral : Numeral) : List Char :=
  let fraction := if numeral.fraction.isEmpty then [] else '.' :: numeral.fraction
  let exponent :=
    match numeral.exponent with
    | none => []
    | some exponent => style.chars exponent
  numeral.whole ++ fraction ++ exponent

/-- The numeral of zero, written with a point. -/
def Numeral.zero : Numeral := ⟨['0'], ['0'], none⟩

/-- A minus sign before a negative number. -/
def signed (negative : Bool) (numeral : List Char) : List Char :=
  if negative then '-' :: numeral else numeral

end HeaderForge.Decimal
