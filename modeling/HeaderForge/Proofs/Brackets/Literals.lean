import HeaderForge.Header.Literals
import HeaderForge.Proofs.Brackets.Lines
import HeaderForge.Proofs.Brackets.Words
import HeaderForge.Proofs.Json.Numbers

/-!
# Literals are lines

No literal of a primitive constant holds a line feed.
-/

namespace HeaderForge.Header

open Page (IsLine)
open Decimal (Numeral)

theorem isLine_append (first second : String) :
    IsLine (first ++ second) ↔ IsLine first ∧ IsLine second := by
  simp [IsLine]

theorem ne_feed_of_isDigit {c : Char} (digit : c.isDigit = true) : c ≠ '\n' := by
  rintro rfl
  exact absurd digit (by decide)

theorem isLine_integerDigits (value : Int) : '\n' ∉ Decimal.integerDigits value := by
  have digits_single : '\n' ∉ Nat.toDigits 10 value.natAbs :=
    fun feed_mem => ne_feed_of_isDigit (Json.isDigit_of_mem_toDigits feed_mem) rfl
  unfold Decimal.integerDigits
  split
  · simpa using digits_single
  · exact digits_single

theorem isLine_numeral {numeral : Numeral} (digits : Json.HasDigits numeral) (negative : Bool) :
    '\n' ∉ Decimal.signed negative (numeral.chars literalExponent) := by
  have whole_single : '\n' ∉ numeral.whole :=
    fun feed_mem => ne_feed_of_isDigit (digits.whole _ feed_mem) rfl
  have fraction_single : '\n' ∉ numeral.fraction :=
    fun feed_mem => ne_feed_of_isDigit (digits.fraction _ feed_mem) rfl
  have chars_single : '\n' ∉ numeral.chars literalExponent := by
    unfold Numeral.chars
    cases numeral.exponent with
    | none => simp [whole_single, fraction_single]
    | some exponent =>
        have exponent_single := isLine_integerDigits exponent
        simp [whole_single, fraction_single, Decimal.ExponentStyle.chars, literalExponent,
          exponent_single]
  cases negative with
  | true => simpa [Decimal.signed] using chars_single
  | false => simpa [Decimal.signed] using chars_single

theorem isLine_decimalText (format : Binary.Format) (datum : Binary.Datum) :
    IsLine (decimalText format datum) := by
  cases datum with
  | nan => exact show IsLine "NaN" by simp [IsLine]
  | infinite negative => exact show IsLine "inf" by simp [IsLine]
  | finite negative significand exponent =>
      rw [IsLine, decimalText, String.toList_ofList]
      apply isLine_numeral
      split
      · exact Json.hasDigits_zero
      · exact Json.hasDigits_layOut literalLayout fun c c_mem => Json.isDigit_of_mem_shortest c_mem

theorem isLine_floatingLiteral {names : FloatingNames} (greatest_single : IsLine names.greatest)
    (least_single : IsLine names.leastNormal) (ending_single : IsLine names.ending)
    (format : Binary.Format) (datum : Binary.Datum) :
    IsLine (floatingLiteral format names datum) := by
  cases datum with
  | nan => exact show IsLine "NAN" by simp [IsLine]
  | infinite negative =>
      cases negative with
      | true => exact show IsLine "-INFINITY" by simp [IsLine]
      | false => exact show IsLine "INFINITY" by simp [IsLine]
  | finite negative significand exponent =>
      unfold floatingLiteral
      split_ifs
      · exact greatest_single
      · exact least_single
      · exact (isLine_append _ _).mpr ⟨isLine_decimalText format _, ending_single⟩

theorem feed_notMem_toDigits_sixteen (value : Nat) : '\n' ∉ Nat.toDigits 16 value := fun feed_mem =>
  Json.forall_mem_toDigits (by decide) (· ≠ '\n') (by decide) value '\n' feed_mem rfl

theorem isLine_charLiteral (code : Nat) : IsLine (charLiteral code) := by
  unfold charLiteral
  split_ifs with quote backslash printable
  · simp [IsLine]
  · simp [IsLine]
  · have valid : code.isValidChar := Or.inl (by omega)
    have code_eq := Text.toNat_ofNat valid
    have not_feed : '\n' ≠ Char.ofNat code := by
      intro feed_eq
      rw [← feed_eq] at code_eq
      obtain rfl : 10 = code := code_eq
      omega
    simp [IsLine, not_feed]
  · have digits_single := feed_notMem_toDigits_sixteen code
    simp [IsLine, hexUnit, digits_single]

/-- The literal of a constant of a primitive type is one line. -/
theorem isLine_literal {value : Constant} (primitive : value.primitive?.isSome = true) :
    IsLine (literal value) := by
  have integer_single : ∀ number : Int, IsLine (integerText number) := by
    intro number
    rw [IsLine, integerText, String.toList_ofList]
    exact isLine_integerDigits number
  cases value with
  | boolean value => cases value <;> simp [literal, IsLine]
  | char value => exact isLine_charLiteral value.toNat
  | byte value => exact integer_single value.toInt
  | short value => exact integer_single value.toInt
  | int value =>
      simp only [literal]
      split
      · simp [IsLine]
      · exact integer_single value.toInt
  | long value =>
      simp only [literal]
      split
      · simp [IsLine]
      · exact (isLine_append _ _).mpr ⟨integer_single value.toInt, by simp [IsLine]⟩
  | float value =>
      exact isLine_floatingLiteral (by simp [IsLine, singleNames]) (by simp [IsLine, singleNames])
        (by simp [IsLine, singleNames]) _ _
  | double value =>
      exact isLine_floatingLiteral (by simp [IsLine, doubleNames]) (by simp [IsLine, doubleNames])
        (by simp [IsLine, doubleNames]) _ _
  | string value => simp [Constant.primitive?] at primitive

end HeaderForge.Header
