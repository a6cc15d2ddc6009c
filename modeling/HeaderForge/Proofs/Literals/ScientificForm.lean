import HeaderForge.Header.ScientificForm
import HeaderForge.Proofs.Literals.Decimals
import HeaderForge.Proofs.Signatures

/-!
# Numbers in scientific form laid out again

A text in scientific form is laid out as literals are without changing the number: its digits are cut
only where there are digits, they stay in their order, and only zeros, a point and an exponent are
added. What is written is read as a numeral with digits on both sides of its point, and it denotes the
number, with the sign asked for.
-/

namespace HeaderForge

/-- What a number denotes. -/
def Json.Number.value (number : Json.Number) : ℚ :=
  if number.negative then -number.numeral.value else number.numeral.value

namespace Header

open Decimal (Numeral Scientific integerDigits signed wholeValue)

/-- The power of ten that digits stand for after a sign. -/
def exponentValue (sign size : List Char) : Int :=
  if sign = ['-'] then -wholeValue size else wholeValue size

/-- A text in scientific form: a digit that is no zero, perhaps a point and more digits, and after `e` a
power of ten of 32 bits, perhaps signed. -/
structure ScientificText where
  /-- The first digit. -/
  first : Char
  /-- The digits after the point, if there is one. -/
  more : Option (List Char)
  /-- The sign of the power of ten. -/
  sign : List Char
  /-- The digits of the power of ten. -/
  size : List Char
  first_isDigit : first.isDigit = true
  first_ne_zero : first ≠ '0'
  more_isDigit : ∀ c ∈ more.getD [], c.isDigit = true
  sign_mem : sign ∈ [[], ['+'], ['-']]
  size_ne_nil : size ≠ []
  size_isDigit : ∀ c ∈ size, c.isDigit = true
  in_range : Int32.minValue.toInt ≤ exponentValue sign size ∧
    exponentValue sign size ≤ Int32.maxValue.toInt

namespace ScientificText

/-- The digits, with the point if there is one. -/
def mantissa (source : ScientificText) : List Char :=
  source.first :: (source.more.map ('.' :: ·)).getD []

/-- The whole text. -/
def text (source : ScientificText) : String :=
  String.ofList (source.mantissa ++ 'e' :: (source.sign ++ source.size))

/-- The number that is written. -/
def number (source : ScientificText) : Scientific :=
  ⟨source.first :: source.more.getD [], exponentValue source.sign source.size⟩

variable (source : ScientificText)

theorem digits_isDigit : ∀ c ∈ source.number.digits, c.isDigit = true :=
  List.forall_mem_cons.mpr ⟨source.first_isDigit, source.more_isDigit⟩

theorem mem_mantissa {c : Char} (c_mem : c ∈ source.mantissa) : c.isDigit = true ∨ c = '.' := by
  have more_isDigit := source.more_isDigit
  rcases List.mem_cons.mp c_mem with rfl | later
  · exact .inl source.first_isDigit
  · cases more_eq : source.more with
    | none => simp [more_eq] at later
    | some digits =>
        rw [more_eq, Option.map_some, Option.getD_some] at later
        rcases List.mem_cons.mp later with rfl | digit_mem
        · exact .inr rfl
        · exact .inl (more_isDigit c (by rwa [more_eq]))

theorem filter_mantissa : source.mantissa.filter (· != '.') = source.number.digits := by
  have kept {digits : List Char} (digits_only : ∀ c ∈ digits, c.isDigit = true) :
      digits.filter (· != '.') = digits := by
    rw [List.filter_eq_self]
    intro c c_mem
    rw [bne_iff_ne]
    rintro rfl
    exact absurd (digits_only '.' c_mem) (by decide)
  have digits_kept := kept source.digits_isDigit
  unfold number at digits_kept ⊢
  unfold mantissa
  cases more_eq : source.more with
  | none => simpa [more_eq] using digits_kept
  | some digits => simpa [more_eq, List.filter_cons] using digits_kept

end ScientificText

/-! ## Reading -/

theorem parseSign_append {sign size : List Char} (sign_mem : sign ∈ [[], ['+'], ['-']])
    (size_isDigit : ∀ c ∈ size, c.isDigit = true) :
    Json.parseSign (sign ++ size) = (decide (sign = ['-']), size) := by
  simp only [List.mem_cons, List.not_mem_nil, or_false] at sign_mem
  rcases sign_mem with rfl | rfl | rfl
  · cases size with
    | nil => rfl
    | cons first others =>
        have first_isDigit := size_isDigit first List.mem_cons_self
        unfold Json.parseSign
        split
        · next sign_eq => cases sign_eq; cases first_isDigit
        · next sign_eq => cases sign_eq; cases first_isDigit
        · rfl
  · rfl
  · rfl

theorem readExponent?_text (source : ScientificText) :
    readExponent? (source.sign ++ source.size) = some source.number.exponent := by
  have digits_only : source.size.all Char.isDigit = true :=
    List.all_eq_true.mpr source.size_isDigit
  have nonempty : source.size.isEmpty = false := by simpa using source.size_ne_nil
  have in_range := source.in_range
  unfold readExponent?
  simp only [parseSign_append source.sign_mem source.size_isDigit, nonempty, digits_only,
    Json.naturalOfDigits_eq, Bool.not_true, Bool.or_false, Bool.false_eq_true, if_false,
    decide_eq_true_eq]
  exact if_pos in_range

theorem readScientific?_text (source : ScientificText) :
    readScientific? source.text = some source.number := by
  have unmarked : 'e' ∉ (String.ofList source.mantissa).toList := by
    rw [String.toList_ofList]
    intro mark_mem
    rcases source.mem_mantissa mark_mem with digit | point
    · exact absurd digit (by decide)
    · exact absurd point (by decide)
  have cut_eq := Text.cutAt_append (String.ofList source.mantissa)
    (String.ofList (source.sign ++ source.size)) unmarked
  have text_eq : source.text = String.ofList source.mantissa ++ String.singleton 'e' ++
      String.ofList (source.sign ++ source.size) := by
    apply String.toList_inj.mp
    simp [ScientificText.text]
  rw [readScientific?, text_eq, cut_eq]
  simp only [Option.bind_eq_bind, Option.bind_some, String.toList_ofList, readExponent?_text,
    source.filter_mantissa]
  rfl

/-! ## Layout -/

theorem cutAfter?_eq_some {count : Nat} {digits : List Char} (there : count ≤ digits.length) :
    cutAfter? count digits = some (digits.take count, digits.drop count) := by
  rw [cutAfter?, if_pos there, List.splitAt_eq]

/-- The digits of a number, if there are any, are only cut where there are digits. -/
theorem layOut?_eq_some {number : Scientific} (nonempty : number.digits ≠ []) :
    layOut? number = some (number.layOut literalLayout) := by
  have first_there : 1 ≤ number.digits.length := List.length_pos_iff.mpr nonempty
  unfold layOut? Scientific.layOut Scientific.plain Scientific.withExponent
  split
  · split
    · dsimp only
      split
      · rfl
      · next long =>
          rw [cutAfter?_eq_some (Nat.le_of_not_le long)]
          rfl
    · rfl
  · rw [cutAfter?_eq_some first_there]
    rfl

theorem exponent_plain (number : Scientific) : number.plain.exponent = none := by
  unfold Scientific.plain
  split
  · dsimp only
    split
    · rfl
    · rfl
  · rfl

/-- A numeral of digits has its characters in this order, if digits follow its point. -/
theorem chars_of_fraction {numeral : Numeral} (fraction : numeral.fraction ≠ []) :
    numeral.chars literalExponent =
      numeral.whole ++ '.' :: (numeral.fraction ++
        (numeral.exponent.map fun exponent => 'E' :: integerDigits exponent).getD []) := by
  have fraction_some : numeral.fraction.isEmpty = false := by simpa using fraction
  rw [Numeral.chars, fraction_some]
  cases numeral.exponent with
  | none => simp
  | some exponent => simp [Decimal.ExponentStyle.chars, literalExponent]

/-- A text in scientific form is laid out as the number it is read as. -/
theorem relaidText?_text (source : ScientificText) (negative : Bool) :
    relaidText? source.text negative = some (String.ofList
      (signed negative ((source.number.layOut literalLayout).chars literalExponent))) := by
  rw [relaidText?, readScientific?_text]
  dsimp only
  rw [layOut?_eq_some (List.cons_ne_nil _ _)]
  rfl

/-- A text in scientific form is laid out as a numeral that denotes its number, negated if asked for,
with the same digits among zeros. -/
theorem relaidText?_denotes (source : ScientificText) (negative : Bool) :
    let numeral := source.number.layOut literalLayout
    let output := signed negative (numeral.chars literalExponent)
    relaidText? source.text negative = some (String.ofList output) ∧
      Json.parseNumber? output = some (⟨negative, numeral⟩, []) ∧
      (Json.Number.mk negative numeral).value =
        (if negative then -source.number.value else source.number.value) ∧
      numeral.whole ≠ [] ∧ numeral.fraction ≠ [] ∧
      (∃ front back, numeral.whole ++ numeral.fraction =
        List.replicate front '0' ++ (source.number.digits ++ List.replicate back '0')) ∧
      output = signed negative
        (if -3 ≤ source.number.exponent ∧ source.number.exponent ≤ 6 then
          numeral.whole ++ '.' :: numeral.fraction
        else
          source.first :: '.' :: (numeral.fraction ++
            'E' :: integerDigits source.number.exponent)) := by
  intro numeral output
  have nonempty : source.number.digits ≠ [] := List.cons_ne_nil _ _
  have starts : Json.StartsNonzero source.number.digits := ⟨_, _, rfl, source.first_ne_zero⟩
  have whole : Json.IsWhole numeral.whole :=
    Json.isWhole_layOut literalLayout starts source.digits_isDigit
  have fraction_isDigit := (Json.hasDigits_layOut literalLayout source.digits_isDigit).fraction
  have fraction_ne_nil : numeral.fraction ≠ [] := Decimal.fraction_layOut_ne_nil rfl nonempty
  have plain : (Json.Number.mk negative numeral).IsPlain := ⟨whole, fraction_isDigit⟩
  obtain ⟨front, back, pads⟩ := Decimal.exists_pads_layOut literalLayout nonempty
  have value_eq : numeral.value = source.number.value := pads.value_eq
  refine ⟨relaidText?_text source negative, ?_, ?_, whole.nonempty, fraction_ne_nil,
    ⟨front, back, pads.digits_eq⟩, ?_⟩
  · have parsed := Json.parseNumber?_signed_append isReadable_literalExponent plain
      (show Json.StopsNumber [] from nofun)
    rwa [List.append_nil] at parsed
  · rw [Json.Number.value, value_eq]
  · refine congrArg (signed negative) ?_
    rw [chars_of_fraction fraction_ne_nil]
    by_cases in_full : -3 ≤ source.number.exponent ∧ source.number.exponent ≤ 6
    · have numeral_eq : numeral = source.number.plain := if_pos in_full
      rw [if_pos in_full, numeral_eq, exponent_plain]
      simp
    · have numeral_eq : numeral = source.number.withExponent true := if_neg in_full
      rw [if_neg in_full, numeral_eq]
      rfl

/-- A text whose power of ten has a sign and a zero before it. -/
def thousandths : ScientificText where
  first := '1'
  more := some ['2', '5']
  sign := ['-']
  size := ['0', '3']
  first_isDigit := by decide
  first_ne_zero := by decide
  more_isDigit := List.all_eq_true.mp (by decide)
  sign_mem := by decide
  size_ne_nil := by decide
  size_isDigit := List.all_eq_true.mp (by decide)
  in_range := by decide

/-- The text is laid out without an exponent, and below zero its numeral denotes -1/800. -/
theorem relaidText?_denotes_of_thousandths :
    thousandths.text = "1.25e-03" ∧ relaidText? thousandths.text true = some "-0.00125" ∧
      ∃ numeral, Json.parseNumber? "-0.00125".toList = some (⟨true, numeral⟩, []) ∧
        (Json.Number.mk true numeral).value = -(1 / 800) := by
  obtain ⟨relaid, parsed, value_eq, -⟩ := relaidText?_denotes thousandths true
  have number_value : thousandths.number.value = 1 / 800 := by
    have digits_value : wholeValue thousandths.number.digits = 125 := by decide
    have place_eq : thousandths.number.exponent + 1 - thousandths.number.digits.length = -5 := by
      decide
    rw [Scientific.value, digits_value, place_eq]
    norm_num
  rw [if_pos rfl, number_value] at value_eq
  exact ⟨by decide, relaid.trans (by decide), _, parsed, value_eq⟩

end Header

end HeaderForge
