import HeaderForge.Proofs.Json.Numbers

/-!
# Shortest decimals have digits

The search for a shortest decimal finds a point before it runs out of grids: the grid of the last
decimal place of a value has the value itself. So there is a first digit, and it is not a zero, as
readers of numbers ask for.
-/

namespace HeaderForge.Decimal

open Binary (Format Fraction)

/-- The value lies inside the interval, and above zero. -/
structure Interval.IsProper (interval : Interval) : Prop where
  low_pos : 0 < interval.low
  low_lt : interval.low < interval.middle
  lt_high : interval.middle < interval.high
  unit_pos : 0 < interval.unit

theorem numerator_scaled_one_pos (exponent : Int) : 0 < (Fraction.scaled 1 exponent).numerator := by
  unfold Fraction.scaled
  split
  · exact Nat.mul_pos Nat.one_pos (Nat.pow_pos (by decide))
  · exact Nat.one_pos

theorem denominator_scaled_one (exponent : Int) :
    (Fraction.scaled 1 exponent).denominator = 2 ^ (-exponent).toNat := by
  unfold Fraction.scaled
  split
  · next nonneg =>
      have none_below : (-exponent).toNat = 0 := by omega
      rw [none_below]
      rfl
  · rfl

theorem roundingInterval_isProper (format : Format) {significand : Nat} (exponent : Int)
    (positive : 0 < significand) : (roundingInterval format significand exponent).IsProper := by
  have quarter_pos := numerator_scaled_one_pos (exponent - 2)
  have unit_eq := denominator_scaled_one (exponent - 2)
  unfold roundingInterval
  dsimp only
  refine ⟨Nat.mul_pos ?_ quarter_pos, Nat.mul_lt_mul_of_pos_right ?_ quarter_pos,
    Nat.mul_lt_mul_of_pos_right (by omega) quarter_pos, ?_⟩
  · split <;> omega
  · split <;> omega
  · rw [unit_eq]
    exact Nat.pow_pos (by decide)

/-! ## Grids -/

theorem denominator_tenfold_pos (count : Nat) (exponent : Int) :
    0 < (tenfold count exponent).denominator := by
  unfold tenfold
  split
  · exact Nat.one_pos
  · exact Nat.pow_pos (by decide)

/-- Grids at or below ones divide one into a power of ten. -/
theorem tenfold_one_of_nonpos {exponent : Int} (nonpos : exponent ≤ 0) :
    tenfold 1 exponent = ⟨1, 10 ^ (-exponent).toNat⟩ := by
  unfold tenfold
  split
  · next nonneg =>
      obtain rfl : exponent = 0 := by omega
      rfl
  · rfl

theorem Interval.IsProper.has_zero {interval : Interval} (proper : interval.IsProper)
    {denominator : Nat} (positive : 0 < denominator) : interval.has 0 denominator = false := by
  have limit_pos : 0 < interval.low * denominator := Nat.mul_pos proper.low_pos positive
  unfold Interval.has
  rw [Nat.zero_mul]
  split
  · rw [Bool.and_eq_false_iff, decide_eq_false_iff_not]
    exact .inl (by omega)
  · rw [Bool.and_eq_false_iff, decide_eq_false_iff_not]
    exact .inl (by omega)

/-- The interval has the value itself, however it is written. -/
theorem Interval.IsProper.has_middle {interval : Interval} (proper : interval.IsProper)
    {numerator denominator : Nat} (positive : 0 < denominator)
    (point_eq : numerator * interval.unit = interval.middle * denominator) :
    interval.has numerator denominator = true := by
  have low_lt := Nat.mul_lt_mul_of_pos_right proper.low_lt positive
  have lt_high := Nat.mul_lt_mul_of_pos_right proper.lt_high positive
  unfold Interval.has
  rw [point_eq]
  split
  · rw [Bool.and_eq_true, decide_eq_true_iff, decide_eq_true_iff]
    exact ⟨low_lt.le, lt_high.le⟩
  · rw [Bool.and_eq_true, decide_eq_true_iff, decide_eq_true_iff]
    exact ⟨low_lt, lt_high⟩

/-- What is found on a grid lies in the interval. -/
theorem Interval.has_of_gridPoint? {interval : Interval} {tie : TieRule} {exponent : Int} {count : Nat}
    (found : interval.gridPoint? tie exponent = some count) :
    interval.has (count * (tenfold 1 exponent).numerator) (tenfold 1 exponent).denominator = true := by
  unfold Interval.gridPoint? at found
  dsimp only at found
  split at found
  · next has_lower has_upper =>
      obtain rfl := Option.some.inj found
      split
      · exact has_lower
      · exact has_upper
  · next has_lower _ =>
      obtain rfl := Option.some.inj found
      exact has_lower
  · next _ has_upper =>
      obtain rfl := Option.some.inj found
      exact has_upper
  · cases found

theorem Interval.IsProper.gridPoint?_pos {interval : Interval} (proper : interval.IsProper)
    {tie : TieRule} {exponent : Int} {count : Nat}
    (found : interval.gridPoint? tie exponent = some count) : 0 < count := by
  have has_point := Interval.has_of_gridPoint? found
  rcases Nat.eq_zero_or_pos count with rfl | positive
  · rw [Nat.zero_mul, proper.has_zero (denominator_tenfold_pos 1 exponent)] at has_point
    cases has_point
  · exact positive

/-- A grid fine enough for the value has a point in the interval. -/
theorem Interval.IsProper.gridPoint?_ne_none {interval : Interval} (proper : interval.IsProper)
    (tie : TieRule) {exponent : Int} (nonpos : exponent ≤ 0)
    (divides : interval.unit ∣ interval.middle * 10 ^ (-exponent).toNat) :
    interval.gridPoint? tie exponent ≠ none := by
  have has_lower : interval.has (interval.middle * 10 ^ (-exponent).toNat / interval.unit * 1)
      (10 ^ (-exponent).toNat) = true := by
    apply proper.has_middle (Nat.pow_pos (by decide))
    rw [Nat.mul_one, Nat.div_mul_cancel divides]
  unfold Interval.gridPoint?
  rw [tenfold_one_of_nonpos nonpos]
  simp only [Nat.mul_one] at has_lower ⊢
  rw [has_lower]
  split
  · exact nofun
  · exact nofun
  · next lower_out _ => cases lower_out
  · next lower_out _ => cases lower_out

/-- A point is found if any of the grids that are tried has one. -/
theorem Interval.firstGridPoint_found {interval : Interval} {tie : TieRule} {fuel steps : Nat}
    {exponent : Int} (enough : steps ≤ fuel)
    (found : interval.gridPoint? tie (exponent - steps) ≠ none) :
    interval.gridPoint? tie (interval.firstGridPoint tie fuel exponent).2 =
      some (interval.firstGridPoint tie fuel exponent).1 := by
  induction fuel generalizing steps exponent with
  | zero =>
      obtain rfl := Nat.le_zero.mp enough
      obtain ⟨count, count_eq⟩ := Option.ne_none_iff_exists'.mp found
      rw [Nat.cast_zero, sub_zero] at count_eq
      simp only [firstGridPoint, count_eq, Option.getD_some]
  | succ fuel ih =>
      cases point_eq : interval.gridPoint? tie exponent with
      | some count => simp only [firstGridPoint, point_eq]
      | none =>
          cases steps with
          | zero => exact absurd point_eq (by simpa using found)
          | succ steps =>
              simp only [firstGridPoint, point_eq]
              apply ih (Nat.le_of_succ_le_succ enough)
              have place_eq : exponent - 1 - (steps : Int) = exponent - (steps + 1 : Nat) := by
                omega
              rwa [place_eq]

/-- The search for the shortest decimal of a value finds a positive multiple of a power of ten that rounds
to the value. -/
theorem exists_shortest_eq_ofCount (format : Format) (tie : TieRule) {significand : Nat}
    (exponent : Int) (positive : 0 < significand) :
    ∃ count place, 0 < count ∧
      (roundingInterval format significand exponent).has (count * (tenfold 1 place).numerator)
        (tenfold 1 place).denominator = true ∧
      shortest format tie significand exponent = .ofCount count place := by
  have proper := roundingInterval_isProper format exponent positive
  let interval := roundingInterval format significand exponent
  let leading := leadingExponent interval.middle interval.unit
  let fuel := leading.toNat + (-exponent).toNat + 3
  have found : interval.gridPoint? tie (leading - fuel) ≠ none := by
    apply proper.gridPoint?_ne_none tie (by omega)
    have unit_eq : interval.unit = 2 ^ (-(exponent - 2)).toNat := denominator_scaled_one (exponent - 2)
    have fine : (-(exponent - 2)).toNat ≤ (-(leading - fuel)).toNat := by omega
    rw [show (roundingInterval format significand exponent).unit = interval.unit from rfl, unit_eq]
    exact ((pow_dvd_pow 2 fine).trans (pow_dvd_pow_of_dvd (by decide) _)).mul_left _
  have point_eq := Interval.firstGridPoint_found le_rfl found
  exact ⟨_, _, proper.gridPoint?_pos point_eq, Interval.has_of_gridPoint? point_eq, rfl⟩

end HeaderForge.Decimal

namespace HeaderForge.Json

open Decimal (Numeral Scientific Layout)

/-! ## Digits -/

/-- There is a first digit, which is not a zero. -/
def StartsNonzero (digits : List Char) : Prop := ∃ first rest, digits = first :: rest ∧ first ≠ '0'

theorem startsNonzero_toDigits {value : Nat} (positive : 0 < value) :
    StartsNonzero (Nat.toDigits 10 value) := by
  obtain ⟨first, rest, digits_eq⟩ :=
    List.exists_cons_of_ne_nil (Nat.toDigits_ne_nil (n := value) (b := 10))
  refine ⟨first, rest, digits_eq, ?_⟩
  rintro rfl
  exact head?_toDigits_ne_zero positive (by rw [digits_eq]; rfl)

/-- Without the zeros at its end a row of digits starts as before. -/
theorem StartsNonzero.withoutZeros {digits : List Char} (starts : StartsNonzero digits) :
    StartsNonzero (digits.reverse.dropWhile (· == '0')).reverse := by
  obtain ⟨first, rest, rfl, not_zero⟩ := starts
  have first_kept : [first].dropWhile (· == '0') = [first] := by simp [not_zero]
  rw [List.reverse_cons, List.dropWhile_append]
  split
  · rw [first_kept]
    exact ⟨first, [], rfl, not_zero⟩
  · rw [List.reverse_append]
    exact ⟨first, _, rfl, not_zero⟩

theorem StartsNonzero.isWhole {digits : List Char} (starts : StartsNonzero digits)
    (digits_only : ∀ c ∈ digits, c.isDigit = true) : IsWhole digits := by
  obtain ⟨first, rest, rfl, not_zero⟩ := starts
  exact ⟨List.cons_ne_nil first rest, digits_only,
    fun head_eq => absurd (Option.some.inj head_eq) not_zero⟩

theorem StartsNonzero.ne_nil {digits : List Char} (starts : StartsNonzero digits) : digits ≠ [] := by
  obtain ⟨first, rest, rfl, -⟩ := starts
  exact List.cons_ne_nil first rest

theorem StartsNonzero.append {digits : List Char} (starts : StartsNonzero digits)
    (others : List Char) : StartsNonzero (digits ++ others) := by
  obtain ⟨first, rest, rfl, not_zero⟩ := starts
  exact ⟨first, rest ++ others, rfl, not_zero⟩

theorem StartsNonzero.take {digits : List Char} (starts : StartsNonzero digits) (count : Nat) :
    StartsNonzero (digits.take (count + 1)) := by
  obtain ⟨first, rest, rfl, not_zero⟩ := starts
  exact ⟨first, rest.take count, rfl, not_zero⟩

/-- The shortest decimal of a value starts with a digit that is no zero. -/
theorem startsNonzero_shortest (format : Binary.Format) (tie : Decimal.TieRule) {significand : Nat}
    (exponent : Int) (positive : 0 < significand) :
    StartsNonzero (Decimal.shortest format tie significand exponent).digits := by
  obtain ⟨count, place, count_pos, -, shortest_eq⟩ :=
    Decimal.exists_shortest_eq_ofCount format tie exponent positive
  rw [shortest_eq]
  exact (startsNonzero_toDigits count_pos).withoutZeros

/-- A number in scientific form has a whole part as readers ask for it, in any layout. -/
theorem isWhole_layOut {number : Scientific} (layout : Layout) (starts : StartsNonzero number.digits)
    (digits : ∀ c ∈ number.digits, c.isDigit = true) : IsWhole (number.layOut layout).whole := by
  have digits_only := (hasDigits_layOut layout digits).whole
  unfold Scientific.layOut at digits_only ⊢
  split at digits_only
  · next in_full =>
      rw [if_pos in_full]
      unfold Scientific.plain at digits_only ⊢
      split at digits_only
      · next nonneg =>
          dsimp only at digits_only ⊢
          rw [if_pos nonneg]
          split at digits_only
          · next short =>
              rw [if_pos short]
              exact (starts.append _).isWhole digits_only
          · next long =>
              rw [if_neg long]
              exact (starts.take _).isWhole digits_only
      · next negative =>
          rw [if_neg negative]
          exact isWhole_toDigits 0
  · next with_exponent =>
      rw [if_neg with_exponent]
      exact (starts.take 0).isWhole digits_only

theorem isPlain_zero (negative : Bool) : (Number.mk negative .zero).IsPlain :=
  ⟨isWhole_toDigits 0, hasDigits_zero.fraction⟩

/-- The shortest decimal of a value can be read, in any layout. -/
theorem isPlain_shortest (format : Binary.Format) (tie : Decimal.TieRule) (layout : Layout)
    (negative : Bool) {significand : Nat} (exponent : Int) (positive : 0 < significand) :
    (Number.mk negative
      ((Decimal.shortest format tie significand exponent).layOut layout)).IsPlain := by
  have starts := startsNonzero_shortest format tie exponent positive
  have digits_only : ∀ c ∈ (Decimal.shortest format tie significand exponent).digits,
      c.isDigit = true := fun c c_mem => isDigit_of_mem_shortest c_mem
  exact ⟨isWhole_layOut layout starts digits_only, (hasDigits_layOut layout digits_only).fraction⟩

/-- The numbers written for floating-point values can be read. -/
theorem isPlain_ofDatum? {format : Binary.Format} {layout : Layout} {datum : Binary.Datum}
    {number : Number} (written : Number.ofDatum? format layout datum = some number) :
    number.IsPlain := by
  cases datum with
  | nan => cases written
  | infinite negative => cases written
  | finite negative significand exponent =>
      simp only [Number.ofDatum?] at written
      split at written
      · obtain rfl := Option.some.inj written
        exact isPlain_zero negative
      · next nonzero =>
          obtain rfl := Option.some.inj written
          exact isPlain_shortest format .toEven layout negative exponent (Nat.pos_of_ne_zero nonzero)

end HeaderForge.Json
