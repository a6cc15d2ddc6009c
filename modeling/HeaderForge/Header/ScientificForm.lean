import HeaderForge.Header.Literals
import HeaderForge.Json.Parser
import HeaderForge.Text.Words

/-!
# Numbers in scientific form

A number may be given as a text in scientific form, such as `1.25e-3`. It is laid out as literals are:
its digits are collected and cut where the point belongs. A cut behind the last digit gives nothing. A
text without a power of ten is left as it is.

Only texts in scientific form are meant to be laid out. What else has a power of ten is taken as far as
it goes: other characters count as digits, one by one and not by their bytes, and of `e-1`, which has no
digits, the point of `0.` is dropped.
-/

namespace HeaderForge.Header

open Decimal (Numeral Scientific)

/-- A number as its text in scientific form. -/
def scientificText (number : Scientific) : String :=
  String.ofList ((number.withExponent false).chars ⟨'e', false⟩)

/-- Reads a power of ten: digits, perhaps after a sign, of an integer of 32 bits. -/
def readExponent? (text : List Char) : Option Int :=
  let (negative, digits) := Json.parseSign text
  if digits.isEmpty || !digits.all Char.isDigit then none
  else
    let size : Int := Json.naturalOfDigits digits
    let exponent := if negative then -size else size
    if Int32.minValue.toInt ≤ exponent ∧ exponent ≤ Int32.maxValue.toInt then some exponent else none

/-- Reads a number in scientific form. Whatever stands before the first `e`, but for points, is taken as
its digits. -/
def readScientific? (text : String) : Option Scientific := do
  let (mantissa, exponent) ← Text.cutAt 'e' text
  let exponent ← readExponent? exponent.toList
  pure ⟨mantissa.toList.filter (· != '.'), exponent⟩

/-- The digits before and after a place; `none` if the place lies behind the last of them. -/
def cutAfter? (count : Nat) (digits : List Char) : Option (List Char × List Char) :=
  if count ≤ digits.length then some (digits.splitAt count) else none

/-- The number as literals are laid out, if all places are there at which its digits are cut. It is meant
for numbers that have digits. -/
def layOut? (number : Scientific) : Option Numeral :=
  if literalLayout.leastPlain ≤ number.exponent ∧ number.exponent ≤ literalLayout.greatestPlain then
    if 0 ≤ number.exponent then
      let places := number.exponent.toNat + 1
      if number.digits.length ≤ places then
        some ⟨number.digits ++ List.replicate (places - number.digits.length) '0', ['0'], none⟩
      else
        (cutAfter? places number.digits).map fun (whole, fraction) => ⟨whole, fraction, none⟩
    else
      some ⟨['0'], List.replicate (-number.exponent - 1).toNat '0' ++ number.digits, none⟩
  else
    (cutAfter? 1 number.digits).map fun (first, others) =>
      ⟨first, if others.isEmpty then ['0'] else others, some number.exponent⟩

/-- A text in scientific form as literals have it, perhaps with a minus sign; `none` where its digits
would be cut behind the last of them. -/
def relaidText? (text : String) (negative : Bool) : Option String :=
  match readScientific? text with
  | some number =>
    (layOut? number).map fun numeral =>
      String.ofList (Decimal.signed negative (numeral.chars literalExponent))
  | none => some text

end HeaderForge.Header
