import HeaderForge.Binary.Format
import Mathlib.Algebra.Order.Field.Rat
import Mathlib.Algebra.Order.Field.Power
import Mathlib.Tactic.Linarith
import Mathlib.Tactic.Positivity
import Mathlib.Tactic.Ring

/-!
# The nearest values of a format

A number rounds to the nearest value of a format, and of two equally near to the one with the even
significand. Between a value and its neighbours there is nothing, so what is at most half the way to
them rounds to the value. The neighbour below the least significand of an exponent is only half as far
away.
-/

namespace HeaderForge.Binary

/-! ## Values -/

/-- The number `significand * 2 ^ exponent`. -/
def magnitude (significand : Nat) (exponent : Int) : ℚ := significand * 2 ^ exponent

theorem magnitude_nonneg (significand : Nat) (exponent : Int) : 0 ≤ magnitude significand exponent := by
  unfold magnitude
  positivity

theorem magnitude_add (first second : Nat) (exponent : Int) :
    magnitude (first + second) exponent = magnitude first exponent + magnitude second exponent := by
  unfold magnitude
  push_cast
  ring

/-- A value can be written with any lower exponent. -/
theorem magnitude_rebase {low exponent : Int} (le : low ≤ exponent) (significand : Nat) :
    magnitude significand exponent =
      magnitude (significand * 2 ^ (exponent - low).toNat) low := by
  have exponent_eq : exponent = (exponent - low).toNat + low := by omega
  have power_eq : (2 : ℚ) ^ exponent = 2 ^ (exponent - low).toNat * 2 ^ low := by
    conv_lhs => rw [exponent_eq]
    rw [zpow_add₀ (by norm_num), zpow_natCast]
  rw [magnitude, magnitude, power_eq]
  push_cast
  ring

section

variable {first second : Nat} {e : Int}

theorem magnitude_lt_iff : magnitude first e < magnitude second e ↔ first < second := by
  rw [magnitude, magnitude, mul_lt_mul_iff_left₀ (by positivity), Nat.cast_lt]

theorem magnitude_le_iff : magnitude first e ≤ magnitude second e ↔ first ≤ second := by
  rw [magnitude, magnitude, mul_le_mul_iff_left₀ (by positivity), Nat.cast_le]

theorem magnitude_inj : magnitude first e = magnitude second e ↔ first = second := by
  rw [magnitude, magnitude, mul_left_inj' (by positivity), Nat.cast_inj]

end

namespace Format

/-- The significand and the exponent are those of a value of the format: the significand has its full
length, unless the exponent is the least. Exponents have no upper limit here. -/
structure IsCanonical (format : Format) (significand : Nat) (exponent : Int) : Prop where
  least_le : format.leastExponent ≤ exponent
  lt_double : significand < 2 * format.fractionCount
  full : format.leastExponent < exponent → format.fractionCount ≤ significand

/-- No value is nearer to the number, and if one is as near, then its significand is odd and that of the
value even. The exponent has no upper limit. -/
structure RoundsTo (format : Format) (number : ℚ) (significand : Nat) (exponent : Int) : Prop where
  canonical : format.IsCanonical significand exponent
  nearest : ∀ other place, format.IsCanonical other place →
    |number - magnitude significand exponent| ≤ |number - magnitude other place|
  even : ∀ other place, format.IsCanonical other place →
    |number - magnitude other place| = |number - magnitude significand exponent| →
      other = significand ∧ place = exponent ∨ significand % 2 = 0 ∧ other % 2 = 1

variable {format : Format} {number : ℚ} {significand other : Nat} {exponent place : Int}

theorem RoundsTo.unique (first : format.RoundsTo number significand exponent)
    (second : format.RoundsTo number other place) : other = significand ∧ place = exponent := by
  have equally_near : |number - magnitude other place| = |number - magnitude significand exponent| :=
    le_antisymm (second.nearest significand exponent first.canonical)
      (first.nearest other place second.canonical)
  rcases first.even other place second.canonical equally_near with same | ⟨even, odd⟩
  · exact same
  · rcases second.even significand exponent first.canonical equally_near.symm with same | ⟨even', -⟩
    · exact ⟨same.1.symm, same.2.symm⟩
    · omega

/-! ## Neighbours -/

theorem fractionCount_pos (format : Format) : 0 < format.fractionCount := Nat.pow_pos (by decide)

/-- Values of a greater exponent are greater than all of a lower one. -/
theorem IsCanonical.lt_of_exponent_lt (low : format.IsCanonical other place)
    (high : format.IsCanonical significand exponent) (lt : place < exponent) :
    magnitude other place < magnitude significand exponent := by
  obtain ⟨steps, steps_eq⟩ : ∃ steps, (exponent - place).toNat = steps + 1 :=
    Nat.exists_eq_succ_of_ne_zero (by omega)
  have other_lt := low.lt_double
  have count_le := high.full (low.least_le.trans_lt lt)
  have double_le : 2 * format.fractionCount ≤ significand * 2 ^ (steps + 1) :=
    calc
      2 * format.fractionCount ≤ 2 * significand := Nat.mul_le_mul_left 2 count_le
      _ ≤ 2 * significand * 2 ^ steps := Nat.le_mul_of_pos_right _ (Nat.pow_pos (by decide))
      _ = significand * 2 ^ (steps + 1) := by ring
  rw [magnitude_rebase lt.le, steps_eq, magnitude_lt_iff]
  exact other_lt.trans_le double_le

theorem IsCanonical.eq_of_magnitude_eq (first : format.IsCanonical significand exponent)
    (second : format.IsCanonical other place)
    (same : magnitude other place = magnitude significand exponent) :
    other = significand ∧ place = exponent := by
  rcases lt_trichotomy place exponent with lt | rfl | gt
  · exact absurd same (second.lt_of_exponent_lt first lt).ne
  · exact ⟨magnitude_inj.mp same, rfl⟩
  · exact absurd same (first.lt_of_exponent_lt second gt).ne'

theorem odd_of_odd_mul {factor product : Nat} (odd : factor * product % 2 = 1) : factor % 2 = 1 :=
  Nat.odd_iff.mp (Nat.odd_mul.mp (Nat.odd_iff.mpr odd)).1

/-- A greater value is greater by one last place at least; if by exactly one, it is odd where this one
is even. -/
theorem IsCanonical.gap_above (canonical : format.IsCanonical significand exponent)
    (greater : format.IsCanonical other place)
    (above : magnitude significand exponent < magnitude other place) :
    magnitude significand exponent + magnitude 1 exponent ≤ magnitude other place ∧
      (magnitude other place = magnitude significand exponent + magnitude 1 exponent →
        significand % 2 = 0 → other % 2 = 1) := by
  rcases lt_or_ge place exponent with lt | le
  · exact absurd above (greater.lt_of_exponent_lt canonical lt).not_gt
  · rw [magnitude_rebase le, magnitude_lt_iff] at above
    rw [magnitude_rebase le, ← magnitude_add, magnitude_le_iff, magnitude_inj]
    refine ⟨above, fun next even => ?_⟩
    have product_odd : other * 2 ^ (place - exponent).toNat % 2 = 1 := by omega
    exact odd_of_odd_mul product_odd

/-- The distance to the neighbour below. -/
def unitBelow (format : Format) (significand : Nat) (exponent : Int) : ℚ :=
  if significand = format.fractionCount ∧ format.leastExponent < exponent then
    magnitude 1 (exponent - 1)
  else
    magnitude 1 exponent

theorem unitBelow_le (format : Format) (significand : Nat) (exponent : Int) :
    format.unitBelow significand exponent ≤ magnitude 1 exponent := by
  unfold unitBelow
  split
  · have half_le : exponent - 1 ≤ exponent := by omega
    rw [magnitude_rebase half_le, magnitude_le_iff]
    exact Nat.le_mul_of_pos_right 1 (Nat.pow_pos (by decide))
  · exact le_rfl

/-- The distance to the neighbour below, measured at a lower exponent. -/
theorem IsCanonical.unitBelow_rebase (canonical : format.IsCanonical significand exponent)
    {steps : Nat} (lower : place + (steps + 1) = exponent) (above_least : format.leastExponent ≤ place) :
    significand = format.fractionCount ∧
        format.unitBelow significand exponent = magnitude (2 ^ steps) place ∨
      format.fractionCount < significand ∧
        format.unitBelow significand exponent = magnitude (2 ^ (steps + 1)) place := by
  have above_place : format.leastExponent < exponent := by omega
  have count_le := canonical.full above_place
  have whole_eq : (exponent - place).toNat = steps + 1 := by omega
  have half_eq : (exponent - 1 - place).toNat = steps := by omega
  rcases Nat.eq_or_lt_of_le count_le with count_eq | count_lt
  · refine .inl ⟨count_eq.symm, ?_⟩
    rw [unitBelow, if_pos ⟨count_eq.symm, above_place⟩,
      magnitude_rebase (show place ≤ exponent - 1 by omega), half_eq, Nat.one_mul]
  · refine .inr ⟨count_lt, ?_⟩
    rw [unitBelow, if_neg (fun irregular => count_lt.ne' irregular.1),
      magnitude_rebase (show place ≤ exponent by omega), whole_eq, Nat.one_mul]

/-- A lower value is lower by the distance to the neighbour at least; if by exactly this, it is odd
where this one is even. -/
theorem IsCanonical.gap_below (canonical : format.IsCanonical significand exponent)
    (lower : format.IsCanonical other place)
    (below : magnitude other place < magnitude significand exponent) :
    magnitude other place + format.unitBelow significand exponent ≤ magnitude significand exponent ∧
      (magnitude significand exponent =
          magnitude other place + format.unitBelow significand exponent →
        significand % 2 = 0 → other % 2 = 1) := by
  rcases lt_or_ge place exponent with lt | le
  · obtain ⟨steps, steps_eq⟩ : ∃ steps : Nat, place + (steps + 1) = exponent :=
      ⟨(exponent - place - 1).toNat, by omega⟩
    have whole_eq : (exponent - place).toNat = steps + 1 := by omega
    have other_lt := lower.lt_double
    have power_pos : 0 < 2 ^ steps := Nat.pow_pos (by decide)
    have count_pos := format.fractionCount_pos
    rw [magnitude_rebase lt.le, whole_eq]
    rcases canonical.unitBelow_rebase steps_eq lower.least_le with
      ⟨rfl, unit_eq⟩ | ⟨count_lt, unit_eq⟩
    · rw [unit_eq, ← magnitude_add, magnitude_le_iff, magnitude_inj, Nat.pow_succ, ← Nat.mul_assoc]
      cases steps with
      | zero => omega
      | succ steps =>
          -- Two exponents below, even the greatest significand does not reach the neighbour.
          have two_le : 2 ≤ 2 ^ (steps + 1) := Nat.le_self_pow (Nat.succ_ne_zero steps) 2
          have double_le := Nat.mul_le_mul_left format.fractionCount two_le
          have power_le := Nat.le_mul_of_pos_left (2 ^ (steps + 1)) count_pos
          omega
    · rw [unit_eq, ← magnitude_add, magnitude_le_iff, magnitude_inj]
      have power_two : 2 ^ (steps + 1) = 2 ^ steps * 2 := Nat.pow_succ 2 steps
      have two_le : 2 ≤ 2 ^ (steps + 1) := by omega
      have double_le := Nat.mul_le_mul_left format.fractionCount two_le
      have next_le := Nat.mul_le_mul_right (2 ^ (steps + 1)) (Nat.succ_le_of_lt count_lt)
      rw [Nat.succ_mul] at next_le
      omega
  · have unit_le := format.unitBelow_le significand exponent
    rw [magnitude_rebase le] at below ⊢
    have next_le : other * 2 ^ (place - exponent).toNat + 1 ≤ significand := magnitude_lt_iff.mp below
    constructor
    · calc
        magnitude (other * 2 ^ (place - exponent).toNat) exponent +
              format.unitBelow significand exponent
          ≤ magnitude (other * 2 ^ (place - exponent).toNat) exponent + magnitude 1 exponent := by
            linarith
        _ = magnitude (other * 2 ^ (place - exponent).toNat + 1) exponent := (magnitude_add _ _ _).symm
        _ ≤ magnitude significand exponent := magnitude_le_iff.mpr next_le
    · intro neighbour even
      have le_next : significand ≤ other * 2 ^ (place - exponent).toNat + 1 := by
        apply (magnitude_le_iff (e := exponent)).mp
        rw [magnitude_add]
        linarith
      have product_odd : other * 2 ^ (place - exponent).toNat % 2 = 1 := by omega
      exact odd_of_odd_mul product_odd

/-! ## Rounding -/

/-- A number not past half the way to a lower value is nearer to the upper, or as near half the way
across the least gap. -/
theorem nearer_of_gap {number value far gap : ℚ} (positive : 0 < gap) (apart : far + gap ≤ value)
    (near : value - gap / 2 ≤ number) :
    |number - value| ≤ |number - far| ∧
      (|number - far| = |number - value| → number = value - gap / 2 ∧ value = far + gap) := by
  have far_below : 0 ≤ number - far := by linarith
  rw [abs_of_nonneg far_below]
  refine ⟨abs_le.mpr ⟨by linarith, by linarith⟩, fun equally_near => ?_⟩
  rcases abs_cases (number - value) with ⟨abs_eq, _⟩ | ⟨abs_eq, _⟩
  · rw [abs_eq] at equally_near
    exact absurd apart (by linarith)
  · rw [abs_eq] at equally_near
    exact ⟨by linarith, by linarith⟩

theorem unitBelow_pos (format : Format) (significand : Nat) (exponent : Int) :
    0 < format.unitBelow significand exponent := by
  unfold unitBelow magnitude
  split <;> positivity

/-- What is at most half the way to the neighbours rounds to the value; half the way itself, only if the
value is even. -/
theorem roundsTo_of_near (canonical : format.IsCanonical significand exponent)
    (low : magnitude significand exponent - format.unitBelow significand exponent / 2 ≤ number)
    (high : number ≤ magnitude significand exponent + magnitude 1 exponent / 2)
    (even_low : number = magnitude significand exponent - format.unitBelow significand exponent / 2 →
      significand % 2 = 0)
    (even_high : number = magnitude significand exponent + magnitude 1 exponent / 2 →
      significand % 2 = 0) :
    format.RoundsTo number significand exponent := by
  have near : ∀ other place, format.IsCanonical other place →
      |number - magnitude significand exponent| ≤ |number - magnitude other place| ∧
        (|number - magnitude other place| = |number - magnitude significand exponent| →
          other = significand ∧ place = exponent ∨ significand % 2 = 0 ∧ other % 2 = 1) := by
    intro other place other_canonical
    rcases lt_trichotomy (magnitude other place) (magnitude significand exponent) with
      below | same | above
    · obtain ⟨apart, odd_of_neighbour⟩ := canonical.gap_below other_canonical below
      obtain ⟨nearer, halfway⟩ := nearer_of_gap (format.unitBelow_pos significand exponent) apart low
      refine ⟨nearer, fun equally_near => .inr ?_⟩
      obtain ⟨number_eq, neighbour⟩ := halfway equally_near
      exact ⟨even_low number_eq, odd_of_neighbour neighbour (even_low number_eq)⟩
    · rw [same]
      exact ⟨le_rfl, fun _ => .inl (canonical.eq_of_magnitude_eq other_canonical same)⟩
    · obtain ⟨apart, odd_of_neighbour⟩ := canonical.gap_above other_canonical above
      have unit_pos : 0 < magnitude 1 exponent := by unfold magnitude; positivity
      -- Seen from zero in the other direction the greater value is the lower one.
      have mirrored (left right : ℚ) : |-left - -right| = |left - right| := by
        rw [neg_sub_neg, abs_sub_comm]
      have apart_mirrored :
          -magnitude other place + magnitude 1 exponent ≤ -magnitude significand exponent := by linarith
      have high_mirrored : -magnitude significand exponent - magnitude 1 exponent / 2 ≤ -number := by
        linarith
      obtain ⟨nearer, halfway⟩ := nearer_of_gap unit_pos apart_mirrored high_mirrored
      rw [mirrored, mirrored] at nearer halfway
      refine ⟨nearer, fun equally_near => .inr ?_⟩
      obtain ⟨number_eq, neighbour⟩ := halfway equally_near
      have even := even_high (by linarith)
      exact ⟨even, odd_of_neighbour (by linarith) even⟩
  exact ⟨canonical, fun other place other_canonical => (near other place other_canonical).1,
    fun other place other_canonical => (near other place other_canonical).2⟩

end Format

end HeaderForge.Binary
