import HeaderForge.Decimal.Shortest
import Mathlib.Algebra.Order.Field.Rat
import Mathlib.Algebra.Order.Field.Power
import Mathlib.Data.List.TakeWhile
import Mathlib.Tactic.NormNum
import Mathlib.Tactic.Ring

/-!
# What decimal numerals denote

A numeral denotes its digits as one integer, scaled to the place of the last digit and by the exponent.
Laying out a number in scientific form moves the point and adds zeros, and neither changes what is
denoted.
-/

namespace HeaderForge.Decimal

/-- The integer of a row of decimal digits. -/
def wholeValue (digits : List Char) : Nat := Nat.ofDigitChars 10 digits 0

/-- What a number in scientific form denotes. -/
def Scientific.value (number : Scientific) : ℚ :=
  wholeValue number.digits * 10 ^ (number.exponent + 1 - number.digits.length)

/-- What a numeral denotes. -/
def Numeral.value (numeral : Numeral) : ℚ :=
  wholeValue (numeral.whole ++ numeral.fraction) *
    10 ^ (numeral.exponent.getD 0 - numeral.fraction.length)

/-! ## Zeros -/

theorem wholeValue_replicate_append (count : Nat) (digits : List Char) :
    wholeValue (List.replicate count '0' ++ digits) = wholeValue digits := by
  induction count with
  | zero => rfl
  | succ count ih =>
      rw [← ih]
      rfl

theorem wholeValue_append_replicate (digits : List Char) (count : Nat) :
    wholeValue (digits ++ List.replicate count '0') = wholeValue digits * 10 ^ count := by
  induction count with
  | zero => simp
  | succ count ih =>
      rw [List.replicate_succ', ← List.append_assoc, wholeValue, Nat.ofDigitChars_append,
        ← wholeValue, ih, Nat.pow_succ, ← Nat.mul_assoc, Nat.mul_comm _ 10]
      rfl

/-- A row of digits is what is left without the zeros at its end, and zeros. -/
theorem withoutZeros_append (digits : List Char) :
    ∃ count, digits = (digits.reverse.dropWhile (· == '0')).reverse ++ List.replicate count '0' := by
  refine ⟨(digits.reverse.takeWhile (· == '0')).length, ?_⟩
  have zeros : ∀ c ∈ digits.reverse.takeWhile (· == '0'), c = '0' := fun c c_mem => by
    simpa using List.mem_takeWhile_imp c_mem
  rw [← List.reverse_replicate, ← List.eq_replicate_of_mem zeros, ← List.reverse_append,
    List.takeWhile_append_dropWhile, List.reverse_reverse]

/-! ## Numbers -/

theorem ten_zpow_add (whole : Nat) (exponent : Int) :
    (10 : ℚ) ^ (exponent + whole) = 10 ^ exponent * 10 ^ whole := by
  rw [zpow_add₀ (by norm_num), zpow_natCast]

/-- A multiple of a power of ten is denoted by its scientific form. -/
theorem value_ofCount (count : Nat) (exponent : Int) :
    (Scientific.ofCount count exponent).value = count * 10 ^ exponent := by
  obtain ⟨zeros, digits_eq⟩ := withoutZeros_append (Nat.toDigits 10 count)
  have length_eq := congrArg List.length digits_eq
  have count_eq : wholeValue (Nat.toDigits 10 count) = count := Nat.ofDigitChars_ten_toDigits
  rw [digits_eq, wholeValue_append_replicate] at count_eq
  rw [List.length_append, List.length_replicate] at length_eq
  unfold Scientific.value Scientific.ofCount
  dsimp only
  have place_eq : exponent + (Nat.toDigits 10 count).length - 1 + 1 -
      ((Nat.toDigits 10 count).reverse.dropWhile (· == '0')).reverse.length = exponent + zeros := by
    omega
  rw [place_eq, ten_zpow_add]
  conv_rhs => rw [← count_eq]
  push_cast
  ring

/-- The digits of the numeral are those of the number with zeros around them, and their last place is
where it belongs. -/
structure Numeral.Pads (numeral : Numeral) (number : Scientific) (front back : Nat) : Prop where
  digits_eq : numeral.whole ++ numeral.fraction =
    List.replicate front '0' ++ (number.digits ++ List.replicate back '0')
  place_eq : numeral.exponent.getD 0 - numeral.fraction.length + back =
    number.exponent + 1 - number.digits.length

theorem Numeral.Pads.value_eq {numeral : Numeral} {number : Scientific} {front back : Nat}
    (pads : numeral.Pads number front back) : numeral.value = number.value := by
  rw [Numeral.value, Scientific.value, pads.digits_eq, wholeValue_replicate_append,
    wholeValue_append_replicate, ← pads.place_eq, ten_zpow_add]
  push_cast
  ring

theorem exists_pads_plain (number : Scientific) :
    ∃ front back, number.plain.Pads number front back := by
  obtain ⟨digits, exponent⟩ := number
  unfold Scientific.plain
  dsimp only
  split
  · next natural =>
      split
      · next short =>
          refine ⟨0, exponent.toNat + 1 - digits.length + 1, ?_, ?_⟩
          · rw [List.replicate_succ', List.append_assoc]
            rfl
          · dsimp only [Option.getD_none, List.length_singleton]
            omega
      · next long =>
          refine ⟨0, 0, ?_, ?_⟩
          · simp
          · dsimp only [Option.getD_none]
            rw [List.length_drop]
            omega
  · next negative =>
      refine ⟨1 + (-exponent - 1).toNat, 0, ?_, ?_⟩
      · rw [← List.replicate_append_replicate, List.replicate_zero, List.append_nil, List.append_assoc]
        rfl
      · dsimp only [Option.getD_none]
        rw [List.length_append, List.length_replicate]
        omega

theorem exists_pads_withExponent (keepsPoint : Bool) {number : Scientific}
    (nonempty : number.digits ≠ []) :
    ∃ front back, (number.withExponent keepsPoint).Pads number front back := by
  obtain ⟨digits, exponent⟩ := number
  obtain ⟨first, others, rfl⟩ := List.exists_cons_of_ne_nil nonempty
  unfold Scientific.withExponent
  dsimp only [List.take_succ_cons, List.take_zero, List.drop_succ_cons, List.drop_zero]
  split
  · next alone =>
      obtain ⟨-, empty⟩ := Bool.and_eq_true_iff.mp alone
      obtain rfl := List.isEmpty_iff.mp empty
      refine ⟨0, 1, rfl, ?_⟩
      dsimp only [Option.getD_some, List.length_singleton]
      omega
  · refine ⟨0, 0, by simp, ?_⟩
    dsimp only [Option.getD_some]
    rw [List.drop_one, List.tail_cons, List.length_cons]
    omega

/-- Laying out only adds zeros. -/
theorem exists_pads_layOut (layout : Layout) {number : Scientific} (nonempty : number.digits ≠ []) :
    ∃ front back, (number.layOut layout).Pads number front back := by
  unfold Scientific.layOut
  split
  · exact exists_pads_plain number
  · exact exists_pads_withExponent layout.keepsPoint nonempty

/-- Digits follow the point, if the layout keeps it. -/
theorem fraction_layOut_ne_nil {layout : Layout} (keepsPoint : layout.keepsPoint = true)
    {number : Scientific} (nonempty : number.digits ≠ []) : (number.layOut layout).fraction ≠ [] := by
  unfold Scientific.layOut
  split
  · unfold Scientific.plain
    split
    · dsimp only
      split
      · exact List.cons_ne_nil _ _
      · next long => exact mt List.drop_eq_nil_iff.mp long
    · exact List.append_ne_nil_of_right_ne_nil _ nonempty
  · unfold Scientific.withExponent
    dsimp only
    rw [keepsPoint, Bool.true_and]
    split
    · exact List.cons_ne_nil _ _
    · next others => exact mt List.isEmpty_iff.mpr others

theorem value_layOut (layout : Layout) {number : Scientific} (nonempty : number.digits ≠ []) :
    (number.layOut layout).value = number.value := by
  obtain ⟨front, back, pads⟩ := exists_pads_layOut layout nonempty
  exact pads.value_eq

end HeaderForge.Decimal
