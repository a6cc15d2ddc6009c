import HeaderForge.Proofs.Literals.ScientificForm

/-!
# Literals by way of scientific form

The digits of a floating-point literal are the shortest ones that read back, given as a text in
scientific form and laid out again. The powers of ten of values of 32 and 64 bits are small enough for
such a text, since a number in scientific form has the size that its power of ten says, and a number
that rounds to a value has about the size of the value.
-/

namespace HeaderForge

open Binary (Format)

namespace Binary.Format

/-- What rounds to a positive value is at least half of it and less than a few times as much. -/
theorem RoundsTo.bounds {format : Format} {number : ℚ} {significand : Nat} {exponent : Int}
    (rounds : format.RoundsTo number significand exponent) (positive : 0 < significand)
    (nonneg : 0 ≤ number) :
    (2 : ℚ) ^ (exponent - 1) ≤ number ∧ number ≤ format.fractionCount * 2 ^ (exponent + 2) := by
  have count_pos := format.fractionCount_pos
  have zero_near := rounds.nearest 0 format.leastExponent
    ⟨le_rfl, by omega, fun above => absurd above (lt_irrefl _)⟩
  have great_near := rounds.nearest format.fractionCount (exponent + 2)
    ⟨by have := rounds.canonical.least_le; omega, by omega, fun _ => le_rfl⟩
  have unit_pos : (0 : ℚ) < 2 ^ (exponent - 1) := by positivity
  have unit_eq : (2 : ℚ) ^ exponent = 2 * 2 ^ (exponent - 1) := by
    conv_lhs => rw [show exponent = exponent - 1 + 1 by omega, zpow_add₀ (by norm_num)]
    ring
  have great_eq : (2 : ℚ) ^ (exponent + 2) = 8 * 2 ^ (exponent - 1) := by
    conv_lhs => rw [show exponent + 2 = exponent - 1 + 3 by omega, zpow_add₀ (by norm_num)]
    norm_num
    ring
  have at_least : (1 : ℚ) ≤ significand := by exact_mod_cast positive
  have less : (significand : ℚ) ≤ 2 * format.fractionCount := by
    exact_mod_cast rounds.canonical.lt_double.le
  have count_one : (1 : ℚ) ≤ format.fractionCount := by exact_mod_cast count_pos
  simp only [magnitude, Nat.cast_zero, zero_mul, sub_zero, abs_of_nonneg nonneg] at zero_near
  simp only [magnitude] at great_near
  rw [unit_eq] at zero_near great_near
  rw [great_eq] at great_near ⊢
  constructor
  · have := neg_abs_le (number - significand * (2 * 2 ^ (exponent - 1)))
    nlinarith
  · refine le_of_not_gt fun above => ?_
    rw [abs_of_nonneg (by nlinarith), abs_of_nonneg (by nlinarith)] at great_near
    nlinarith

end Binary.Format

namespace Decimal

theorem digit_lt_ten {c : Char} (digit : c.isDigit = true) : c.toNat - '0'.toNat < 10 := by
  have bounds := Char.isDigit_iff_toNat.mp digit
  have nine_eq : '9'.toNat = 57 := rfl
  have zero_eq : '0'.toNat = 48 := rfl
  omega

/-- Digits read after others make them longer, and add less than one of them. -/
theorem ofDigitChars_bounds {digits : List Char} (digits_only : ∀ c ∈ digits, c.isDigit = true)
    (value : Nat) :
    value * 10 ^ digits.length ≤ Nat.ofDigitChars 10 digits value ∧
      Nat.ofDigitChars 10 digits value < (value + 1) * 10 ^ digits.length := by
  induction digits generalizing value with
  | nil => simp
  | cons digit rest ih =>
      obtain ⟨digit_only, rest_only⟩ := List.forall_mem_cons.mp digits_only
      have digit_lt := digit_lt_ten digit_only
      obtain ⟨low, high⟩ := ih rest_only (10 * value + (digit.toNat - '0'.toNat))
      rw [Nat.ofDigitChars_cons, List.length_cons, Nat.pow_succ', ← Nat.mul_assoc, ← Nat.mul_assoc]
      constructor
      · exact (Nat.mul_le_mul_right _ (by omega)).trans low
      · exact high.trans_le (Nat.mul_le_mul_right _ (by omega))

/-- A number in scientific form has the size that its power of ten says. -/
theorem Scientific.value_bounds {number : Scientific} (starts : Json.StartsNonzero number.digits)
    (digits_only : ∀ c ∈ number.digits, c.isDigit = true) :
    (10 : ℚ) ^ number.exponent ≤ number.value ∧ number.value < 10 ^ (number.exponent + 1) := by
  obtain ⟨first, rest, digits_eq, first_ne⟩ := starts
  rw [digits_eq] at digits_only
  obtain ⟨first_only, rest_only⟩ := List.forall_mem_cons.mp digits_only
  have first_lt := digit_lt_ten first_only
  have first_pos : 1 ≤ first.toNat - '0'.toNat := by
    have bounds := Char.isDigit_iff_toNat.mp first_only
    have zero_eq : '0'.toNat = 48 := rfl
    have not_zero : first.toNat ≠ 48 := fun same => first_ne (Char.toNat_inj.mp same)
    omega
  obtain ⟨low, high⟩ := ofDigitChars_bounds rest_only (10 * 0 + (first.toNat - '0'.toNat))
  rw [← Nat.ofDigitChars_cons, ← wholeValue, ← digits_eq] at low high
  have at_least : 10 ^ rest.length ≤ wholeValue number.digits :=
    (Nat.le_mul_of_pos_left _ (by omega)).trans low
  have less : wholeValue number.digits < 10 ^ (rest.length + 1) := by
    rw [Nat.pow_succ']
    exact high.trans_le (Nat.mul_le_mul_right _ (by omega))
  have place_pos : (0 : ℚ) < 10 ^ (number.exponent - rest.length) := by positivity
  have place_eq : number.exponent + 1 - (number.digits.length : Int) =
      number.exponent - (rest.length : Int) := by
    rw [digits_eq, List.length_cons]
    push_cast
    ring
  rw [Scientific.value, place_eq]
  constructor
  · calc (10 : ℚ) ^ number.exponent = 10 ^ rest.length * 10 ^ (number.exponent - rest.length) := by
          rw [mul_comm, ← ten_zpow_add, sub_add_cancel]
      _ ≤ wholeValue number.digits * 10 ^ (number.exponent - rest.length) :=
          mul_le_mul_of_nonneg_right (by exact_mod_cast at_least) place_pos.le
  · calc wholeValue number.digits * (10 : ℚ) ^ (number.exponent - rest.length)
        < 10 ^ (rest.length + 1) * 10 ^ (number.exponent - rest.length) :=
          mul_lt_mul_of_pos_right (by exact_mod_cast less) place_pos
      _ = 10 ^ (number.exponent + 1) := by
          rw [mul_comm, ← ten_zpow_add]
          congr 1
          push_cast
          ring

theorem ten_zpow_le_two_zpow {exponent : Int} (negative : exponent ≤ 0) :
    (10 : ℚ) ^ exponent ≤ 2 ^ exponent := by
  obtain ⟨size, rfl⟩ := Int.exists_eq_neg_ofNat negative
  rw [zpow_neg, zpow_neg, zpow_natCast, zpow_natCast]
  exact inv_anti₀ (by positivity) (pow_le_pow_left₀ (by norm_num) (by norm_num) size)

/-- The powers of ten of the shortest decimals fit 32 bits. -/
theorem shortest_exponent_fits {format : Format} {significand : Nat} {exponent : Int}
    (canonical : format.IsCanonical significand exponent) (positive : 0 < significand)
    (narrow : format.fractionBits ≤ 52) (low : -1074 ≤ exponent) (high : exponent ≤ 971) :
    -1076 ≤ (shortest format .up significand exponent).exponent ∧
      (shortest format .up significand exponent).exponent ≤ 1025 := by
  have starts := Json.startsNonzero_shortest format .up exponent positive
  have digits_only : ∀ c ∈ (shortest format .up significand exponent).digits,
      c.isDigit = true := fun c c_mem => Json.isDigit_of_mem_shortest c_mem
  obtain ⟨ten_le, lt_ten⟩ := Scientific.value_bounds starts digits_only
  have nonneg := (zpow_nonneg (by norm_num) _).trans ten_le
  obtain ⟨two_le, le_two⟩ := (shortest_roundsTo .up canonical positive).bounds positive nonneg
  constructor
  · have smaller : (10 : ℚ) ^ (-1075 : Int) <
        10 ^ ((shortest format .up significand exponent).exponent + 1) :=
      calc (10 : ℚ) ^ (-1075 : Int) ≤ 2 ^ (-1075 : Int) := ten_zpow_le_two_zpow (by norm_num)
        _ ≤ 2 ^ (exponent - 1) := zpow_le_zpow_right₀ (by norm_num) (by omega)
        _ ≤ _ := two_le
        _ < _ := lt_ten
    have := (zpow_lt_zpow_iff_right₀ (by norm_num)).mp smaller
    omega
  · have greater : (10 : ℚ) ^ (shortest format .up significand exponent).exponent ≤
        10 ^ (1025 : Int) :=
      calc _ ≤ _ := ten_le
        _ ≤ format.fractionCount * (2 : ℚ) ^ (exponent + 2) := le_two
        _ ≤ 2 ^ (52 : Int) * 2 ^ (973 : Int) := by
          refine mul_le_mul ?_ (zpow_le_zpow_right₀ (by norm_num) (by omega)) (by positivity)
            (by positivity)
          rw [Format.fractionCount]
          exact_mod_cast Nat.pow_le_pow_right (by norm_num) narrow
        _ = 2 ^ (1025 : Int) := by rw [← zpow_add₀ (by norm_num)]; rfl
        _ ≤ 10 ^ (1025 : Int) := zpow_le_zpow_left₀ (by norm_num) (by norm_num) (by norm_num)
    exact (zpow_le_zpow_iff_right₀ (by norm_num)).mp greater

end Decimal

namespace Header

open Decimal (Numeral Scientific integerDigits wholeValue)

/-- A number is written as a text in scientific form. -/
theorem exists_scientificText {number : Scientific} (starts : Json.StartsNonzero number.digits)
    (digits_only : ∀ c ∈ number.digits, c.isDigit = true)
    (in_range : Int32.minValue.toInt ≤ number.exponent ∧ number.exponent ≤ Int32.maxValue.toInt) :
    ∃ source : ScientificText, source.text = scientificText number ∧ source.number = number := by
  obtain ⟨digits, exponent⟩ := number
  obtain ⟨first, rest, digits_eq, first_ne⟩ := starts
  dsimp only at digits_eq digits_only in_range
  subst digits_eq
  obtain ⟨first_only, rest_only⟩ := List.forall_mem_cons.mp digits_only
  have exponent_eq : exponentValue (if exponent < 0 then ['-'] else [])
      (Nat.toDigits 10 exponent.natAbs) = exponent := by
    rw [exponentValue, wholeValue, Nat.ofDigitChars_ten_toDigits]
    by_cases negative : exponent < 0
    · rw [if_pos negative, if_pos rfl]
      omega
    · rw [if_neg negative, if_neg (List.cons_ne_nil _ _).symm]
      omega
  have more_only : ∀ c ∈ (if rest.isEmpty then none else some rest).getD [], c.isDigit = true := by
    cases rest with
    | nil => simp
    | cons next rest => exact rest_only
  have sign_mem : (if exponent < 0 then ['-'] else []) ∈ [[], ['+'], ['-']] := by
    split <;> simp
  refine ⟨{ first, more := if rest.isEmpty then none else some rest
            sign := if exponent < 0 then ['-'] else [], size := Nat.toDigits 10 exponent.natAbs
            first_isDigit := first_only, first_ne_zero := first_ne, more_isDigit := more_only
            sign_mem, size_ne_nil := Nat.toDigits_ne_nil
            size_isDigit := fun c c_mem => Json.isDigit_of_mem_toDigits c_mem
            in_range := by rwa [exponent_eq] }, ?text_eq, ?number_eq⟩
  case text_eq =>
    refine congrArg String.ofList ?_
    have digits_eq : (if exponent < 0 then ['-'] else []) ++ Nat.toDigits 10 exponent.natAbs =
        integerDigits exponent := by
      unfold integerDigits
      split <;> rfl
    rw [ScientificText.mantissa, digits_eq]
    cases rest <;>
      simp [Scientific.withExponent, Numeral.chars, Decimal.ExponentStyle.chars]
  case number_eq => exact congrArg₂ Scientific.mk (by cases rest <;> rfl) exponent_eq

/-- What is printed for a value of 32 or 64 bits is its shortest decimal, laid out again. -/
theorem relaidText?_shortest {format : Format} {word significand : Nat} {negative : Bool} {exponent : Int}
    (is_known : format = Binary.singleFormat ∨ format = Binary.doubleFormat)
    (finite : format.decode word = .finite negative significand exponent) (positive : 0 < significand) :
    relaidText? (scientificText (Decimal.shortest format .up significand exponent)) negative =
      some (decimalText format (format.decode word)) := by
  obtain ⟨canonical, le_greatest⟩ := Format.isCanonical_of_decode finite
  have least_le := canonical.least_le
  have fits : format.fractionBits ≤ 52 ∧ -1074 ≤ exponent ∧ exponent ≤ 971 := by
    rcases is_known with rfl | rfl
    · have least_eq : Binary.singleFormat.leastExponent = -149 := by decide
      have greatest_eq : Binary.singleFormat.greatestExponent = 104 := by decide
      exact ⟨by decide, by omega, by omega⟩
    · have least_eq : Binary.doubleFormat.leastExponent = -1074 := by decide
      have greatest_eq : Binary.doubleFormat.greatestExponent = 971 := by decide
      exact ⟨by decide, by omega, by omega⟩
  obtain ⟨narrow, low, high⟩ := fits
  obtain ⟨least, greatest⟩ := Decimal.shortest_exponent_fits canonical positive narrow low high
  have in_range : Int32.minValue.toInt ≤ (Decimal.shortest format .up significand exponent).exponent ∧
      (Decimal.shortest format .up significand exponent).exponent ≤ Int32.maxValue.toInt := by
    have min_eq : Int32.minValue.toInt = -2147483648 := by decide
    have max_eq : Int32.maxValue.toInt = 2147483647 := by decide
    omega
  obtain ⟨source, text_eq, number_eq⟩ := exists_scientificText
    (Json.startsNonzero_shortest format .up exponent positive)
    (fun c c_mem => Json.isDigit_of_mem_shortest c_mem) in_range
  have relaid := relaidText?_text source negative
  rw [text_eq, number_eq] at relaid
  rw [relaid, finite, decimalText_finite, literalNumeral, if_neg positive.ne']

end Header

end HeaderForge
