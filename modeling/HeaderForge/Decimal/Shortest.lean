import HeaderForge.Binary.Rounding
import HeaderForge.Decimal.Numeral

/-!
# Shortest decimals that read back

Of all decimal numbers that round to a given binary value, the ones with the fewest digits are found,
of those the nearest to the value. Of two equally near, a rule says which is taken.

The search walks through the decimal grids from coarse to fine. If any point of a grid rounds to the
value, then so does one of the two grid points around the value, so only these are tried.
-/

namespace HeaderForge.Decimal

open Binary (Fraction Format)

/-- Which of two equally near numbers is taken. -/
inductive TieRule where
  /-- The greater. -/
  | up
  /-- The one whose last digit is even. -/
  | toEven
deriving DecidableEq, Repr

/-- Whether the lower of two neighbouring multiples of a step is taken for a number that lies between
them, at a given distance from the lower. -/
def TieRule.takesLower (tie : TieRule) (lower distance step : Nat) : Bool :=
  2 * distance < step || (tie == .toEven && 2 * distance == step && lower % 2 == 0)

/-- The numbers that round to a binary value, all measured in one unit. -/
structure Interval where
  /-- The least number, or the limit below. -/
  low : Nat
  /-- The value itself. -/
  middle : Nat
  /-- The greatest number, or the limit above. -/
  high : Nat
  /-- The unit divided into one. -/
  unit : Nat
  /-- Whether the two limits round to the value as well. -/
  closed : Bool
deriving DecidableEq, Repr

/-- The numbers that round to `significand * 2 ^ exponent`, measured in quarters of its last place (or
in ones, if these are finer). Below the least significand of an exponent the neighbour is only half as
far away. -/
def roundingInterval (format : Format) (significand : Nat) (exponent : Int) : Interval :=
  let quarter := Fraction.scaled 1 (exponent - 2)
  let below :=
    if significand = format.fractionCount ∧ format.leastExponent < exponent then 1 else 2
  { low := (4 * significand - below) * quarter.numerator
    middle := 4 * significand * quarter.numerator
    high := (4 * significand + 2) * quarter.numerator
    unit := quarter.denominator
    closed := significand % 2 == 0 }

/-- Whether the fraction `numerator / denominator` lies in the interval. -/
def Interval.has (interval : Interval) (numerator denominator : Nat) : Bool :=
  let point := numerator * interval.unit
  if interval.closed then
    interval.low * denominator ≤ point && point ≤ interval.high * denominator
  else
    interval.low * denominator < point && point < interval.high * denominator

/-- The power of ten of the first digit of a fraction below one: how often it must be multiplied by ten
to reach one, negated. -/
def leadingBelowOne (numerator denominator : Nat) : Nat → Nat → Int
  | 0, count => -count
  | fuel + 1, count =>
    if numerator * Nat.pow 10 count < denominator then
      leadingBelowOne numerator denominator fuel (count + 1)
    else
      -count

/-- The power of ten of the first digit of a positive fraction. -/
def leadingExponent (numerator denominator : Nat) : Int :=
  if denominator ≤ numerator then
    (Nat.toDigits 10 (numerator / denominator)).length - 1
  else
    leadingBelowOne numerator denominator denominator 0

/-- The numbers `count * 10 ^ exponent` as a fraction. -/
def tenfold (count : Nat) (exponent : Int) : Fraction :=
  if 0 ≤ exponent then ⟨count * Nat.pow 10 exponent.toNat, 1⟩
  else ⟨count, Nat.pow 10 (-exponent).toNat⟩

/-- The better of the two points of the grid `10 ^ exponent` around the middle of the interval, as a
multiple of the grid's step, if one of them lies in the interval. -/
def Interval.gridPoint? (interval : Interval) (tie : TieRule) (exponent : Int) : Option Nat :=
  let step := tenfold 1 exponent
  let scaledMiddle := interval.middle * step.denominator
  let scaledStep := interval.unit * step.numerator
  let lower := scaledMiddle / scaledStep
  let rest := scaledMiddle % scaledStep
  let has (count : Nat) := interval.has (count * step.numerator) step.denominator
  match has lower, has (lower + 1) with
  | true, true => some (if tie.takesLower lower rest scaledStep then lower else lower + 1)
  | true, false => some lower
  | false, true => some (lower + 1)
  | false, false => none

/-- The point of the first grid with a point in the interval, and that grid's exponent. -/
def Interval.firstGridPoint (interval : Interval) (tie : TieRule) : Nat → Int → Nat × Int
  | 0, exponent => ((interval.gridPoint? tie exponent).getD 0, exponent)
  | fuel + 1, exponent =>
    match interval.gridPoint? tie exponent with
    | some count => (count, exponent)
    | none => interval.firstGridPoint tie fuel (exponent - 1)

/-- The scientific form of `count * 10 ^ exponent`, without zeros at the end. -/
def Scientific.ofCount (count : Nat) (exponent : Int) : Scientific :=
  let digits := Nat.toDigits 10 count
  let significant := (digits.reverse.dropWhile (· == '0')).reverse
  ⟨significant, exponent + digits.length - 1⟩

/-- The shortest decimal that reads back as `significand * 2 ^ exponent`, a positive value of the
format. The grid of the value's own last decimal place is fine enough. -/
def shortest (format : Format) (tie : TieRule) (significand : Nat) (exponent : Int) :
    Scientific :=
  let interval := roundingInterval format significand exponent
  let leading := leadingExponent interval.middle interval.unit
  let (count, place) :=
    interval.firstGridPoint tie (leading.toNat + (-exponent).toNat + 3) leading
  .ofCount count place

end HeaderForge.Decimal
