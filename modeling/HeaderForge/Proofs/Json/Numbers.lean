import HeaderForge.Json.Parser
import Mathlib.Data.List.TakeDrop
import Mathlib.Tactic.IntervalCases

/-!
# Numbers read back

The characters of a number, read again, give the number, as long as it is made of digits as the grammar
of numbers asks and what follows it cannot be taken for a part of it.
-/

namespace HeaderForge.Json

open Decimal (Numeral Scientific Layout)

/-! ## Digits -/

/-- The text does not go on with a digit. -/
def StopsDigits (text : List Char) : Prop := ∀ c ∈ text.head?, c.isDigit = false

theorem spanDigits_append {digits rest : List Char} (digits_only : ∀ c ∈ digits, c.isDigit = true)
    (stops : StopsDigits rest) : spanDigits (digits ++ rest) = (digits, rest) := by
  rw [spanDigits, List.span_eq_takeWhile_dropWhile, List.takeWhile_append_of_pos digits_only,
    List.dropWhile_append_of_pos digits_only]
  cases rest with
  | nil => simp
  | cons c rest =>
      have not_digit : c.isDigit = false := stops c rfl
      simp [not_digit]

/-- What holds of all digits holds of the digits of a number. -/
theorem forall_mem_toDigits {base : Nat} (large : 1 < base) (kind : Char → Prop)
    (digits : ∀ digit < base, kind (Nat.digitChar digit)) (value : Nat) :
    ∀ c ∈ Nat.toDigits base value, kind c := by
  induction value using Nat.strongRecOn with
  | ind value ih =>
      by_cases small : value < base
      · rw [Nat.toDigits_of_lt_base small, List.forall_mem_singleton]
        exact digits value small
      · have rest_lt : value / base < value := Nat.div_lt_self (by omega) large
        rw [Nat.toDigits_of_base_le large (Nat.le_of_not_lt small), List.forall_mem_append,
          List.forall_mem_singleton]
        exact ⟨ih (value / base) rest_lt, digits _ (Nat.mod_lt _ (by omega))⟩

theorem isDigit_of_mem_toDigits {c : Char} {value : Nat} (c_mem : c ∈ Nat.toDigits 10 value) :
    c.isDigit = true :=
  Nat.isDigit_of_mem_toDigits (by decide) (by decide) c_mem

theorem head?_toDigits_ne_zero {value : Nat} (positive : 0 < value) :
    (Nat.toDigits 10 value).head? ≠ some '0' := by
  induction value using Nat.strongRecOn with
  | ind value ih =>
      by_cases small : value < 10
      · rw [Nat.toDigits_of_lt_base small]
        interval_cases value <;> decide
      · have large : 10 ≤ value := Nat.le_of_not_lt small
        have tens_positive : 0 < value / 10 := Nat.div_pos large (by decide)
        have tens_head := ih (value / 10) (by omega) tens_positive
        obtain ⟨first, others, digits_eq⟩ :=
          List.exists_cons_of_ne_nil (Nat.toDigits_ne_nil (n := value / 10) (b := 10))
        rw [Nat.toDigits_of_base_le (by decide) large, digits_eq]
        rwa [digits_eq] at tens_head

theorem naturalOfDigits_eq (digits : List Char) :
    naturalOfDigits digits = Nat.ofDigitChars 10 digits 0 := by
  rw [naturalOfDigits, Nat.ofDigitChars_eq_foldl]
  congr 1
  funext value digit
  rw [digitValue, Nat.mul_comm]

theorem naturalOfDigits_toDigits (value : Nat) : naturalOfDigits (Nat.toDigits 10 value) = value := by
  rw [naturalOfDigits_eq, Nat.ofDigitChars_ten_toDigits]

/-! ## Parts of a number -/

/-- The digits are those of a natural number, without zeros before them. -/
structure IsWhole (digits : List Char) : Prop where
  nonempty : digits ≠ []
  digits_only : ∀ c ∈ digits, c.isDigit = true
  zero_alone : digits.head? = some '0' → digits = ['0']

/-- The number has digits where the grammar has them. -/
structure Number.IsPlain (number : Number) : Prop where
  whole : IsWhole number.numeral.whole
  fraction : ∀ c ∈ number.numeral.fraction, c.isDigit = true

/-- The text does not go on with a character that numbers have. -/
def StopsNumber (text : List Char) : Prop :=
  ∀ c ∈ text.head?, c.isDigit = false ∧ c ≠ '.' ∧ c ≠ 'e' ∧ c ≠ 'E'

theorem StopsNumber.digits {text : List Char} (stops : StopsNumber text) : StopsDigits text :=
  fun c c_mem => (stops c c_mem).1

theorem isWhole_toDigits (value : Nat) : IsWhole (Nat.toDigits 10 value) where
  nonempty := Nat.toDigits_ne_nil
  digits_only := fun c c_mem => isDigit_of_mem_toDigits c_mem
  zero_alone := by
    intro head_eq
    rcases Nat.eq_zero_or_pos value with rfl | positive
    · rfl
    · exact absurd head_eq (head?_toDigits_ne_zero positive)

theorem Number.isPlain_ofInt (value : Int) : (Number.ofInt value).IsPlain where
  whole := isWhole_toDigits value.natAbs
  fraction := by simp [Number.ofInt]

theorem parseWhole?_append {digits rest : List Char} (whole : IsWhole digits)
    (stops : StopsDigits rest) : parseWhole? (digits ++ rest) = some (digits, rest) := by
  obtain ⟨nonempty, digits_only, zero_alone⟩ := whole
  rw [parseWhole?, spanDigits_append digits_only stops]
  cases digits with
  | nil => exact absurd rfl nonempty
  | cons first others =>
      by_cases zero : first = '0'
      · subst zero
        have others_eq : '0' :: others = ['0'] := zero_alone rfl
        rw [others_eq]
        rfl
      · split
        · simp_all
        · simp_all
        · simp_all
        · simp_all

/-- The digits of the numeral are digits, though they may not make a number. -/
structure HasDigits (numeral : Numeral) : Prop where
  whole : ∀ c ∈ numeral.whole, c.isDigit = true
  fraction : ∀ c ∈ numeral.fraction, c.isDigit = true

/-- The characters of a fraction with its point. -/
def fractionChars (fraction : List Char) : List Char :=
  if fraction.isEmpty then [] else '.' :: fraction

section

variable (style : Decimal.ExponentStyle)

/-- The characters of an exponent with its mark. -/
def exponentChars : Option Int → List Char
  | none => []
  | some exponent => style.chars exponent

/-- The sign of an exponent. -/
def signChars (exponent : Int) : List Char :=
  if exponent < 0 then ['-'] else if style.hasPlus then ['+'] else []

theorem numeral_chars_eq (numeral : Numeral) :
    numeral.chars style =
      numeral.whole ++ (fractionChars numeral.fraction ++ exponentChars style numeral.exponent) := by
  rw [Numeral.chars, List.append_assoc]
  cases numeral.exponent with
  | none => rfl
  | some exponent => rfl

theorem exponentChars_cons (exponent : Int) :
    exponentChars style (some exponent) =
      style.mark :: (signChars style exponent ++ Nat.toDigits 10 exponent.natAbs) := by
  by_cases negative : exponent < 0
  · have not_natural : ¬ 0 ≤ exponent := by omega
    simp [exponentChars, Decimal.ExponentStyle.chars, signChars, Decimal.integerDigits, negative,
      not_natural]
  · have natural : 0 ≤ exponent := by omega
    cases plus : style.hasPlus with
    | true =>
        simp [exponentChars, Decimal.ExponentStyle.chars, signChars, Decimal.integerDigits, negative,
          natural, plus]
    | false =>
        simp [exponentChars, Decimal.ExponentStyle.chars, signChars, Decimal.integerDigits, negative,
          plus]

end

/-- Readers know the mark of exponents. -/
def IsReadable (style : Decimal.ExponentStyle) : Prop := style.mark = 'e' ∨ style.mark = 'E'

theorem stopsDigits_exponentChars {style : Decimal.ExponentStyle} (readable : IsReadable style)
    {exponent : Option Int} {rest : List Char} (stops : StopsDigits rest) :
    StopsDigits (exponentChars style exponent ++ rest) := by
  cases exponent with
  | none => exact stops
  | some exponent =>
      rw [exponentChars_cons]
      intro c c_mem
      obtain rfl : style.mark = c := by simpa using c_mem
      rcases readable with mark_eq | mark_eq
      · rw [mark_eq]; rfl
      · rw [mark_eq]; rfl

theorem stopsDigits_fractionChars {fraction rest : List Char} (stops : StopsDigits rest) :
    StopsDigits (fractionChars fraction ++ rest) := by
  cases fraction with
  | nil => exact stops
  | cons digit others =>
      intro c c_mem
      obtain rfl : '.' = c := by simpa [fractionChars] using c_mem
      rfl

theorem isWhole_of_parseWhole? {digits rest : List Char}
    (digits_only : ∀ c ∈ digits, c.isDigit = true) (stops : StopsDigits rest)
    (read : parseWhole? (digits ++ rest) ≠ none) : IsWhole digits := by
  rw [parseWhole?, spanDigits_append digits_only stops] at read
  refine ⟨?_, digits_only, ?_⟩
  · rintro rfl
    exact read rfl
  · intro head_eq
    cases digits with
    | nil => simp at head_eq
    | cons first others =>
        obtain rfl : first = '0' := by simpa using head_eq
        cases others with
        | nil => rfl
        | cons second others => exact absurd rfl read

theorem parseFraction?_append {fraction rest : List Char}
    (digits_only : ∀ c ∈ fraction, c.isDigit = true) (stops : StopsDigits rest)
    (no_point : '.' ∉ rest.head?) :
    parseFraction? (fractionChars fraction ++ rest) = some (fraction, rest) := by
  cases fraction with
  | nil =>
      cases rest with
      | nil => rfl
      | cons c rest =>
          have not_point : c ≠ '.' := by
            rintro rfl
            exact no_point rfl
          simp only [fractionChars, List.isEmpty_nil, if_true, List.nil_append]
          unfold parseFraction?
          split
          · simp_all
          · rfl
  | cons digit others =>
      simp only [fractionChars, List.isEmpty_cons, Bool.false_eq_true, if_false, List.cons_append,
        parseFraction?]
      rw [← List.cons_append, spanDigits_append digits_only stops]

theorem parseSign_signChars (style : Decimal.ExponentStyle) (exponent : Int) (size : Nat)
    (rest : List Char) :
    parseSign (signChars style exponent ++ (Nat.toDigits 10 size ++ rest)) =
      (decide (exponent < 0), Nat.toDigits 10 size ++ rest) := by
  obtain ⟨first, others, digits_eq⟩ :=
    List.exists_cons_of_ne_nil (Nat.toDigits_ne_nil (n := size) (b := 10))
  have first_mem : first ∈ Nat.toDigits 10 size := digits_eq ▸ List.mem_cons_self
  have first_digit := isDigit_of_mem_toDigits first_mem
  unfold signChars
  split
  · next negative => simp [parseSign, negative]
  · next natural =>
      split
      · simp [parseSign, natural]
      · rw [digits_eq, List.nil_append, List.cons_append, decide_eq_false natural]
        unfold parseSign
        split
        · next sign_eq => cases sign_eq; cases first_digit
        · next sign_eq => cases sign_eq; cases first_digit
        · rfl

theorem parseExponent?_append {style : Decimal.ExponentStyle} (readable : IsReadable style)
    {exponent : Option Int} {rest : List Char} (stops : StopsNumber rest) :
    parseExponent? (exponentChars style exponent ++ rest) = some (exponent, rest) := by
  cases exponent with
  | none =>
      cases rest with
      | nil => rfl
      | cons c rest =>
          obtain ⟨_, _, not_small, not_capital⟩ := stops c rfl
          simp [exponentChars, parseExponent?, not_small, not_capital]
  | some exponent =>
      have size_eq := naturalOfDigits_toDigits exponent.natAbs
      have digits_only : ∀ c ∈ Nat.toDigits 10 exponent.natAbs, c.isDigit = true :=
        fun c c_mem => isDigit_of_mem_toDigits c_mem
      have span_eq := spanDigits_append digits_only stops.digits
      have sign_eq := parseSign_signChars style exponent exponent.natAbs rest
      rw [IsReadable] at readable
      rw [exponentChars_cons, List.cons_append, List.append_assoc, parseExponent?, if_pos readable,
        sign_eq]
      simp only [span_eq]
      split
      · simp_all [Nat.toDigits_ne_nil]
      · next digits_eq =>
          cases digits_eq
          rw [size_eq]
          by_cases negative : exponent < 0
          · have exponent_eq : -(exponent.natAbs : Int) = exponent := by omega
            rw [decide_eq_true negative, if_pos rfl, exponent_eq]
          · have exponent_eq : (exponent.natAbs : Int) = exponent := by omega
            rw [decide_eq_false negative, if_neg Bool.false_ne_true, exponent_eq]

theorem parseNumeral?_append {style : Decimal.ExponentStyle} (readable : IsReadable style)
    {numeral : Numeral} {rest : List Char} (whole : IsWhole numeral.whole)
    (fraction : ∀ c ∈ numeral.fraction, c.isDigit = true) (stops : StopsNumber rest) :
    parseNumeral? (numeral.chars style ++ rest) = some (numeral, rest) := by
  have exponent_stops : StopsDigits (exponentChars style numeral.exponent ++ rest) :=
    stopsDigits_exponentChars readable stops.digits
  have no_point : '.' ∉ (exponentChars style numeral.exponent ++ rest).head? := by
    cases numeral.exponent with
    | none => exact fun point_mem => (stops '.' point_mem).2.1 rfl
    | some exponent =>
        rcases readable with mark_eq | mark_eq
        · simp [exponentChars_cons, mark_eq]
        · simp [exponentChars_cons, mark_eq]
  rw [numeral_chars_eq, List.append_assoc, List.append_assoc, parseNumeral?,
    parseWhole?_append whole (stopsDigits_fractionChars exponent_stops)]
  simp [parseFraction?_append fraction exponent_stops no_point, parseExponent?_append readable stops]

theorem parseNumber?_of_no_minus {text : List Char} (no_minus : '-' ∉ text.head?) :
    parseNumber? text = (parseNumeral? text).map fun (numeral, rest) => (⟨false, numeral⟩, rest) := by
  unfold parseNumber?
  split
  · exact absurd rfl no_minus
  · rfl

/-- A numeral of digits starts with one of them, with its point or with its mark. -/
theorem no_minus_of_hasDigits {style : Decimal.ExponentStyle} (readable : IsReadable style)
    {numeral : Numeral} (digits : HasDigits numeral) : '-' ∉ (numeral.chars style).head? := by
  obtain ⟨whole, fraction, exponent⟩ := numeral
  rw [numeral_chars_eq]
  cases whole with
  | cons first others =>
      have first_digit : first.isDigit = true := digits.whole first List.mem_cons_self
      intro minus_mem
      obtain rfl : first = '-' := by simpa using minus_mem
      exact absurd first_digit (by decide)
  | nil =>
      cases fraction with
      | cons first others => simp [fractionChars]
      | nil =>
          cases exponent with
          | none => simp [fractionChars, exponentChars]
          | some exponent =>
              rcases readable with mark_eq | mark_eq
              · simp [fractionChars, exponentChars_cons, mark_eq]
              · simp [fractionChars, exponentChars_cons, mark_eq]

theorem Number.IsPlain.hasDigits {number : Number} (plain : number.IsPlain) :
    HasDigits number.numeral :=
  ⟨plain.whole.digits_only, plain.fraction⟩

/-- A number is read in any style of exponents that readers know. -/
theorem parseNumber?_signed_append {style : Decimal.ExponentStyle} (readable : IsReadable style)
    {number : Number} {rest : List Char} (plain : number.IsPlain) (stops : StopsNumber rest) :
    parseNumber? (Decimal.signed number.negative (number.numeral.chars style) ++ rest) =
      some (number, rest) := by
  obtain ⟨negative, numeral⟩ := number
  have numeral_read := parseNumeral?_append readable plain.whole plain.fraction stops
  cases negative with
  | true => simp [Decimal.signed, parseNumber?, numeral_read]
  | false =>
      have no_minus : '-' ∉ (numeral.chars style ++ rest).head? := by
        obtain ⟨first, others, whole_eq⟩ := List.exists_cons_of_ne_nil plain.whole.nonempty
        have numeral_no_minus := no_minus_of_hasDigits readable plain.hasDigits
        rw [numeral_chars_eq, whole_eq] at numeral_no_minus ⊢
        exact numeral_no_minus
      simp only [Decimal.signed, Bool.false_eq_true, if_false]
      rw [parseNumber?_of_no_minus no_minus, numeral_read]
      rfl

theorem isReadable_exponentStyle : IsReadable Number.exponentStyle := .inl rfl

theorem parseNumber?_append {number : Number} {rest : List Char} (plain : number.IsPlain)
    (stops : StopsNumber rest) : parseNumber? (number.chars ++ rest) = some (number, rest) :=
  parseNumber?_signed_append isReadable_exponentStyle plain stops

/-- Digits from which a number can be read at all are those of that number. -/
theorem isPlain_of_parseNumber? {number : Number} (digits : HasDigits number.numeral)
    (read : parseNumber? number.chars ≠ none) : number.IsPlain := by
  obtain ⟨negative, numeral⟩ := number
  have end_stops : StopsDigits [] := by simp [StopsDigits]
  have stops : StopsDigits
      (fractionChars numeral.fraction ++ exponentChars Number.exponentStyle numeral.exponent) := by
    simpa using stopsDigits_fractionChars (stopsDigits_exponentChars isReadable_exponentStyle end_stops)
  have numeral_read : parseNumeral? (numeral.chars Number.exponentStyle) ≠ none := by
    cases negative with
    | true => simpa [Number.chars, Decimal.signed, parseNumber?] using read
    | false =>
        simp only [Number.chars, Decimal.signed, Bool.false_eq_true, if_false] at read
        rw [parseNumber?_of_no_minus (no_minus_of_hasDigits isReadable_exponentStyle digits)] at read
        simpa using read
  refine ⟨isWhole_of_parseWhole? digits.whole stops ?_, digits.fraction⟩
  intro whole_unread
  rw [numeral_chars_eq, parseNumeral?, whole_unread] at numeral_read
  exact numeral_read rfl

/-! ## What a number denotes -/

theorem le_ofDigitChars (digits : List Char) (value : Nat) :
    value ≤ Nat.ofDigitChars 10 digits value := by
  induction digits generalizing value with
  | nil => simp
  | cons digit rest ih =>
      rw [Nat.ofDigitChars_cons]
      have rest_le := ih (10 * value + (digit.toNat - '0'.toNat))
      omega

/-- Digits of an integer that fits are all kept. -/
theorem Leading.ofWhole_eq {digits : List Char} {value : Nat}
    (fits : Nat.ofDigitChars 10 digits value < significandLimit) :
    Leading.ofWhole digits value = ⟨Nat.ofDigitChars 10 digits value, 0⟩ := by
  induction digits generalizing value with
  | nil => simp [Leading.ofWhole]
  | cons digit rest ih =>
      rw [Nat.ofDigitChars_cons] at fits ⊢
      have next_eq : value * 10 + digitValue digit = 10 * value + (digit.toNat - '0'.toNat) := by
        rw [digitValue, Nat.mul_comm]
      have next_fits : 10 * value + (digit.toNat - '0'.toNat) < significandLimit :=
        lt_of_le_of_lt (le_ofDigitChars rest _) fits
      simp only [Leading.ofWhole, next_eq, next_fits, if_true]
      exact ih fits

/-- Integers that fit 64 bits, signed or unsigned, are denoted by their numbers. -/
theorem quantity_ofInt {value : Int} (low : -2 ^ 63 ≤ value) (high : value < 2 ^ 64) :
    (Number.ofInt value).quantity = .integer value := by
  have limit_eq : significandLimit = 2 ^ 64 := rfl
  have leading_eq :
      Leading.ofWhole (Nat.toDigits 10 value.natAbs) 0 = ⟨value.natAbs, 0⟩ := by
    rw [Leading.ofWhole_eq, Nat.ofDigitChars_ten_toDigits]
    rw [Nat.ofDigitChars_ten_toDigits]
    omega
  simp only [Number.quantity, Number.ofInt, leading_eq]
  by_cases negative : value < 0
  · have in_range : ¬ (value.natAbs = 0 ∨ 2 * value.natAbs > significandLimit) := by omega
    have value_eq : -(value.natAbs : Int) = value := by omega
    simp only [List.isEmpty_nil, Option.isNone_none, beq_self_eq_true, Bool.and_true, if_true,
      negative, decide_true, Bool.not_true, Bool.false_eq_true, if_false, in_range, value_eq]
  · have value_eq : (value.natAbs : Int) = value := by omega
    simp only [List.isEmpty_nil, Option.isNone_none, beq_self_eq_true, Bool.and_true, if_true,
      negative, decide_false, Bool.not_false, value_eq]

/-! ## Digits of floating-point numbers -/

theorem isDigit_of_mem_replicate {c : Char} {count : Nat} (c_mem : c ∈ List.replicate count '0') :
    c.isDigit = true := by
  rw [List.eq_of_mem_replicate c_mem]
  rfl

theorem hasDigits_plain {number : Scientific} (digits : ∀ c ∈ number.digits, c.isDigit = true) :
    HasDigits number.plain := by
  unfold Scientific.plain
  split
  · dsimp only
    split
    · refine ⟨?_, by simp⟩
      intro c c_mem
      rcases List.mem_append.mp c_mem with c_mem | c_mem
      · exact digits c c_mem
      · exact isDigit_of_mem_replicate c_mem
    · exact ⟨fun c c_mem => digits c (List.mem_of_mem_take c_mem),
        fun c c_mem => digits c (List.mem_of_mem_drop c_mem)⟩
  · refine ⟨by simp, ?_⟩
    intro c c_mem
    rcases List.mem_append.mp c_mem with c_mem | c_mem
    · exact isDigit_of_mem_replicate c_mem
    · exact digits c c_mem

theorem hasDigits_withExponent {number : Scientific} (keepsPoint : Bool)
    (digits : ∀ c ∈ number.digits, c.isDigit = true) :
    HasDigits (number.withExponent keepsPoint) := by
  refine ⟨fun c c_mem => digits c (List.mem_of_mem_take c_mem), ?_⟩
  unfold Scientific.withExponent
  dsimp only
  split
  · simp
  · exact fun c c_mem => digits c (List.mem_of_mem_drop c_mem)

theorem hasDigits_zero : HasDigits Numeral.zero := ⟨by simp [Numeral.zero], by simp [Numeral.zero]⟩

theorem hasDigits_layOut {number : Scientific} (layout : Layout)
    (digits : ∀ c ∈ number.digits, c.isDigit = true) : HasDigits (number.layOut layout) := by
  unfold Scientific.layOut
  split
  · exact hasDigits_plain digits
  · exact hasDigits_withExponent layout.keepsPoint digits

theorem isDigit_of_mem_shortest {format : Binary.Format} {tie : Decimal.TieRule}
    {significand : Nat} {exponent : Int} {c : Char}
    (c_mem : c ∈ (Decimal.shortest format tie significand exponent).digits) : c.isDigit = true := by
  have c_kept := List.mem_reverse.mp c_mem
  exact isDigit_of_mem_toDigits
    (List.mem_reverse.mp ((List.dropWhile_suffix _).subset c_kept))

theorem hasDigits_ofDatum? {format : Binary.Format} {layout : Layout} {datum : Binary.Datum}
    {number : Number} (written : Number.ofDatum? format layout datum = some number) :
    HasDigits number.numeral := by
  cases datum with
  | nan => simp [Number.ofDatum?] at written
  | infinite negative => simp [Number.ofDatum?] at written
  | finite negative significand exponent =>
      simp only [Number.ofDatum?] at written
      split at written
      · obtain rfl := Option.some.inj written
        exact hasDigits_zero
      · obtain rfl := Option.some.inj written
        exact hasDigits_layOut layout fun c c_mem => isDigit_of_mem_shortest c_mem

end HeaderForge.Json
