import HeaderForge.Proofs.Binary.Nearest
import HeaderForge.Proofs.Decimal.Values
import HeaderForge.Proofs.Json.Shortest

/-!
# Shortest decimals read back

The interval in which a shortest decimal is searched goes half the way to the neighbours of the value,
and has its limits only if the value is even. So what is found in it rounds to the value.
-/

namespace HeaderForge.Decimal

open Binary (Fraction Format magnitude)

/-! ## Powers as fractions -/

theorem numerator_scaled_eq (exponent : Int) :
    ((Fraction.scaled 1 exponent).numerator : ℚ) =
      (Fraction.scaled 1 exponent).denominator * 2 ^ exponent := by
  unfold Fraction.scaled
  split
  · next natural =>
      obtain ⟨power, rfl⟩ := Int.eq_ofNat_of_zero_le natural
      simp
  · next negative =>
      obtain ⟨power, rfl⟩ : ∃ power : Nat, exponent = -power := ⟨exponent.natAbs, by omega⟩
      simp

theorem numerator_tenfold_eq (exponent : Int) :
    ((tenfold 1 exponent).numerator : ℚ) = (tenfold 1 exponent).denominator * 10 ^ exponent := by
  unfold tenfold
  split
  · next natural =>
      obtain ⟨power, rfl⟩ := Int.eq_ofNat_of_zero_le natural
      simp
  · next negative =>
      obtain ⟨power, rfl⟩ : ∃ power : Nat, exponent = -power := ⟨exponent.natAbs, by omega⟩
      simp

/-! ## Limits -/

/-- The interval is the one between the limits, measured in its unit, and has these only if closed. -/
structure Interval.Spans (interval : Interval) (low high : ℚ) : Prop where
  unit_pos : 0 < interval.unit
  low_eq : (interval.low : ℚ) = interval.unit * low
  high_eq : (interval.high : ℚ) = interval.unit * high

theorem Interval.Spans.of_has {interval : Interval} {low high : ℚ} (spans : interval.Spans low high)
    {numerator denominator : Nat} {number : ℚ} (positive : 0 < denominator)
    (number_eq : (numerator : ℚ) = denominator * number)
    (has : interval.has numerator denominator = true) :
    low ≤ number ∧ number ≤ high ∧
      (number = low ∨ number = high → interval.closed = true) := by
  have scale_pos : (0 : ℚ) < interval.unit * denominator := by
    have unit_pos := spans.unit_pos
    positivity
  have low_cast : ((interval.low * denominator : Nat) : ℚ) = interval.unit * denominator * low := by
    push_cast
    rw [spans.low_eq]
    ring
  have point_cast :
      ((numerator * interval.unit : Nat) : ℚ) = interval.unit * denominator * number := by
    push_cast
    rw [number_eq]
    ring
  have high_cast : ((interval.high * denominator : Nat) : ℚ) = interval.unit * denominator * high := by
    push_cast
    rw [spans.high_eq]
    ring
  unfold Interval.has at has
  dsimp only at has
  split at has
  · next closed =>
      obtain ⟨low_le, le_high⟩ := Bool.and_eq_true_iff.mp has
      have low_le : ((interval.low * denominator : Nat) : ℚ) ≤ (numerator * interval.unit : Nat) :=
        Nat.cast_le.mpr (of_decide_eq_true low_le)
      have le_high : ((numerator * interval.unit : Nat) : ℚ) ≤ (interval.high * denominator : Nat) :=
        Nat.cast_le.mpr (of_decide_eq_true le_high)
      rw [low_cast, point_cast, mul_le_mul_iff_right₀ scale_pos] at low_le
      rw [high_cast, point_cast, mul_le_mul_iff_right₀ scale_pos] at le_high
      exact ⟨low_le, le_high, fun _ => closed⟩
  · obtain ⟨low_lt, lt_high⟩ := Bool.and_eq_true_iff.mp has
    have low_lt : ((interval.low * denominator : Nat) : ℚ) < (numerator * interval.unit : Nat) :=
      Nat.cast_lt.mpr (of_decide_eq_true low_lt)
    have lt_high : ((numerator * interval.unit : Nat) : ℚ) < (interval.high * denominator : Nat) :=
      Nat.cast_lt.mpr (of_decide_eq_true lt_high)
    rw [low_cast, point_cast, mul_lt_mul_iff_right₀ scale_pos] at low_lt
    rw [high_cast, point_cast, mul_lt_mul_iff_right₀ scale_pos] at lt_high
    exact ⟨low_lt.le, lt_high.le, fun limit => limit.elim (absurd · low_lt.ne') (absurd · lt_high.ne)⟩

/-- The interval of a value goes half the way to its neighbours. -/
theorem spans_roundingInterval (format : Format) {significand : Nat} (exponent : Int)
    (positive : 0 < significand) :
    (roundingInterval format significand exponent).Spans
      (magnitude significand exponent - format.unitBelow significand exponent / 2)
      (magnitude significand exponent + magnitude 1 exponent / 2) := by
  have quarter_eq := numerator_scaled_eq (exponent - 2)
  have whole_eq : (2 : ℚ) ^ exponent = 4 * 2 ^ (exponent - 2) := by
    conv_lhs => rw [show exponent = exponent - 2 + 2 by omega, zpow_add₀ (by norm_num)]
    norm_num
    ring
  have half_eq : (2 : ℚ) ^ (exponent - 1) = 2 * 2 ^ (exponent - 2) := by
    conv_lhs => rw [show exponent - 1 = exponent - 2 + 1 by omega, zpow_add₀ (by norm_num)]
    norm_num
    ring
  refine ⟨(roundingInterval_isProper format exponent positive).unit_pos, ?_, ?_⟩
  · unfold roundingInterval Format.unitBelow magnitude
    dsimp only
    split
    · have one_le : 1 ≤ 4 * significand := by omega
      push_cast [one_le]
      rw [quarter_eq, half_eq, whole_eq]
      ring
    · have two_le : 2 ≤ 4 * significand := by omega
      push_cast [two_le]
      rw [quarter_eq, whole_eq]
      ring
  · unfold roundingInterval magnitude
    push_cast
    rw [quarter_eq, whole_eq]
    ring

/-- The shortest decimal of a value rounds to it. -/
theorem shortest_roundsTo {format : Format} (tie : TieRule) {significand : Nat} {exponent : Int}
    (canonical : format.IsCanonical significand exponent) (positive : 0 < significand) :
    format.RoundsTo (shortest format tie significand exponent).value significand exponent := by
  obtain ⟨count, place, -, has_point, shortest_eq⟩ :=
    exists_shortest_eq_ofCount format tie exponent positive
  have point_eq : ((count * (tenfold 1 place).numerator : Nat) : ℚ) =
      (tenfold 1 place).denominator * (count * 10 ^ place) := by
    push_cast
    rw [numerator_tenfold_eq]
    ring
  obtain ⟨low, high, closed_of_limit⟩ := (spans_roundingInterval format exponent positive).of_has
    (denominator_tenfold_pos 1 place) point_eq has_point
  have even_of_closed (closed : (roundingInterval format significand exponent).closed = true) :
      significand % 2 = 0 := beq_iff_eq.mp closed
  rw [shortest_eq, value_ofCount]
  exact Format.roundsTo_of_near canonical low high
    (fun number_eq => even_of_closed (closed_of_limit (.inl number_eq)))
    (fun number_eq => even_of_closed (closed_of_limit (.inr number_eq)))

end HeaderForge.Decimal
