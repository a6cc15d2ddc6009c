import HeaderForge.Proofs.Binary.Nearest
import Mathlib.Tactic.IntervalCases

/-!
# Words and their data

A word that stands for a number is the word of that number: its sign bit, its exponent field and its
fraction field can be read off what it stands for. A finite value has its canonical significand and
exponent.
-/

namespace HeaderForge.Binary.Format

/-- The fields of a word, from the sign on. -/
theorem word_eq_fields (format : Format) (word : Nat) :
    word = word / format.signPlace * format.signPlace +
      (word / format.fractionCount % format.exponentCount) * format.fractionCount +
      word % format.fractionCount := by
  have above_eq : word / format.signPlace = word / format.fractionCount / format.exponentCount := by
    rw [Nat.div_div_eq_div_mul, signPlace, Nat.mul_comm]
  have upper_eq : word / format.fractionCount =
      word / format.signPlace * format.exponentCount +
        word / format.fractionCount % format.exponentCount := by
    rw [above_eq]
    exact (Nat.div_add_mod' _ _).symm
  calc
    word = word / format.fractionCount * format.fractionCount + word % format.fractionCount :=
      (Nat.div_add_mod' _ _).symm
    _ = (word / format.signPlace * format.exponentCount +
          word / format.fractionCount % format.exponentCount) * format.fractionCount +
        word % format.fractionCount := by rw [← upper_eq]
    _ = _ := by rw [signPlace, Nat.add_mul, Nat.mul_assoc]

/-- The sign bit is all there is above the other fields. -/
theorem signPlace_mul_div {format : Format} {word : Nat} (small : word < 2 * format.signPlace) :
    (if word / format.signPlace % 2 == 1 then format.signPlace else 0) =
      word / format.signPlace * format.signPlace := by
  have sign_lt : word / format.signPlace < 2 := Nat.div_lt_of_lt_mul (by rwa [Nat.mul_comm])
  generalize word / format.signPlace = sign at sign_lt
  interval_cases sign
  · simp
  · simp

/-- Words are those of what they stand for, unless that is no number. -/
theorem encode_decode {format : Format} {word : Nat} (small : word < 2 * format.signPlace)
    (number : format.decode word ≠ .nan) : format.encode (format.decode word) = word := by
  have fields_eq := format.word_eq_fields word
  have sign_eq := signPlace_mul_div small
  unfold decode at number ⊢
  dsimp only at number ⊢
  split_ifs at number ⊢ with infinite fraction_zero subnormal
  · rw [infinite, fraction_zero] at fields_eq
    rw [encode, sign_eq]
    omega
  · exact absurd rfl number
  · rw [subnormal] at fields_eq
    rw [encode, sign_eq, sub_self, Int.toNat_zero]
    omega
  · -- The first bit of the significand is not written; the field counts one more for it.
    obtain ⟨places, field_eq⟩ := Nat.exists_eq_succ_of_ne_zero subnormal
    rw [field_eq] at fields_eq ⊢
    rw [encode, sign_eq, add_sub_cancel_left, Int.toNat_natCast, Nat.succ_sub_one]
    rw [Nat.succ_mul] at fields_eq
    omega

/-- Finite values have a canonical significand and exponent in the range of the format. -/
theorem isCanonical_of_decode {format : Format} {word significand : Nat} {negative : Bool}
    {exponent : Int} (finite : format.decode word = .finite negative significand exponent) :
    format.IsCanonical significand exponent ∧ exponent ≤ format.greatestExponent := by
  have fraction_lt : word % format.fractionCount < format.fractionCount :=
    Nat.mod_lt _ format.fractionCount_pos
  have field_lt : word / format.fractionCount % format.exponentCount < format.exponentCount :=
    Nat.mod_lt _ (Nat.pow_pos (by decide))
  unfold greatestExponent
  unfold decode at finite
  dsimp only at finite
  split_ifs at finite with infinite fraction_zero subnormal
  · cases finite
    exact ⟨⟨le_rfl, by omega, fun above => absurd above (lt_irrefl _)⟩, by omega⟩
  · cases finite
    exact ⟨⟨by omega, by omega, fun _ => Nat.le_add_right _ _⟩, by omega⟩

end HeaderForge.Binary.Format
