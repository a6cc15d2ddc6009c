import HeaderForge.Header.Literals
import HeaderForge.Proofs.Characters
import HeaderForge.Proofs.Json.Numbers
import HeaderForge.Proofs.Literals.Expressions

/-!
# Integer literals denote their constants

Read by the rules of the target language, the literal of a truth value, a character or an integer has
the constant's value. The token in it fits its own type, before a minus sign or a conversion is
applied: the least integers, whose positive counterparts would not fit, are written as patterns without
a sign and converted.
-/

namespace HeaderForge

namespace Target

/-! ## Digits -/

theorem hexValue?_digitChar {digit : Nat} (small : digit < 16) :
    Json.hexValue? (Nat.digitChar digit) = some digit := by
  interval_cases digit <;> decide

theorem readDigits?_toDigits {base : Nat} (large : 1 < base) (small : base ≤ 16) (value : Nat) :
    readDigits? base (Nat.toDigits base value) = some value := by
  induction value using Nat.strongRecOn with
  | ind value ih =>
      by_cases single : value < base
      · have digit_eq := hexValue?_digitChar (single.trans_le small)
        rw [Nat.toDigits_of_lt_base single]
        simp [readDigits?, digit_eq, single]
      · have rest_lt : value / base < value := Nat.div_lt_self (by omega) large
        have last_lt : value % base < base := Nat.mod_lt _ (by omega)
        have last_eq := hexValue?_digitChar (last_lt.trans_le small)
        have rest_eq := ih (value / base) rest_lt
        rw [readDigits?] at rest_eq
        rw [Nat.toDigits_of_base_le large (Nat.le_of_not_lt single), readDigits?, List.foldlM_append,
          rest_eq]
        simp [last_eq, last_lt, Nat.div_add_mod]

theorem readDigits?_zeros_append {base : Nat} (positive : 0 < base) (zeros : Nat)
    (digits : List Char) :
    readDigits? base (List.replicate zeros '0' ++ digits) = readDigits? base digits := by
  have zero_eq : Json.hexValue? '0' = some 0 := by decide
  induction zeros with
  | zero => rfl
  | succ zeros ih =>
      rw [List.replicate_succ, List.cons_append]
      rw [readDigits?] at ih ⊢
      simpa [zero_eq, positive] using ih

theorem readDigits?_hexUnit (code : Nat) : readDigits? 16 (Header.hexUnit code) = some code := by
  rw [Header.hexUnit, readDigits?_zeros_append (by decide),
    readDigits?_toDigits (by decide) (by decide)]

/-! ## Words -/

theorem splitLong_of_not_mem {word : List Char} (unmarked : 'L' ∉ word) :
    splitLong word = (word, false) := by
  unfold splitLong
  split
  · next rest reversed =>
      have mark_mem : 'L' ∈ word.reverse := by rw [reversed]; exact List.mem_cons_self
      exact absurd (List.mem_reverse.mp mark_mem) unmarked
  · rfl

theorem splitLong_append (word : List Char) : splitLong (word ++ ['L', 'L']) = (word, true) := by
  simp [splitLong]

/-- The digits of a number are a zero alone, or begin with another digit. -/
theorem toDigits_cases (value : Nat) :
    value = 0 ∧ Nat.toDigits 10 value = ['0'] ∨
      ∃ first rest, Nat.toDigits 10 value = first :: rest ∧ first ≠ '0' := by
  rcases Nat.eq_zero_or_pos value with rfl | positive
  · exact .inl ⟨rfl, rfl⟩
  · obtain ⟨first, rest, digits_eq⟩ :=
      List.exists_cons_of_ne_nil (Nat.toDigits_ne_nil (n := value) (b := 10))
    refine .inr ⟨first, rest, digits_eq, ?_⟩
    rintro rfl
    exact Json.head?_toDigits_ne_zero positive (by rw [digits_eq]; rfl)

theorem readNumber?_decimal {word : List Char} {value : Nat} {isLong : Bool}
    (split_eq : splitLong word = (Nat.toDigits 10 value, isLong)) :
    readNumber? word = some (.decimal value isLong) := by
  have read_eq : readDigits? 10 (Nat.toDigits 10 value) = some value :=
    readDigits?_toDigits (by decide) (by decide) value
  rw [readNumber?, split_eq]
  rcases toDigits_cases value with ⟨rfl, digits_eq⟩ | ⟨first, rest, digits_eq, not_zero⟩
  · rfl
  · rw [digits_eq] at read_eq ⊢
    split
    · next zero_eq => cases zero_eq; exact absurd rfl not_zero
    · next zero_eq => cases zero_eq; exact absurd rfl not_zero
    · next zero_eq => cases zero_eq; exact absurd rfl not_zero
    · next same => cases same; rw [read_eq]; rfl
    · next empty => cases empty

theorem exists_cons_hexUnit (code : Nat) : ∃ first rest, Header.hexUnit code = first :: rest := by
  apply List.exists_cons_of_ne_nil
  intro empty
  exact Nat.toDigits_ne_nil (List.append_eq_nil_iff.mp empty).2

theorem isDigitChar_of_mem_hexUnit {code : Nat} {c : Char} (c_mem : c ∈ Header.hexUnit code) :
    ∃ digit < 16, c = Nat.digitChar digit := by
  rcases List.mem_append.mp c_mem with zero_mem | digit_mem
  · exact ⟨0, by decide, List.eq_of_mem_replicate zero_mem⟩
  · exact Json.forall_mem_toDigits (by decide) (fun c => ∃ digit < 16, c = Nat.digitChar digit)
      (fun digit small => ⟨digit, small, rfl⟩) code c digit_mem

theorem readNumber?_hexadecimal (code : Nat) :
    readNumber? ('0' :: 'x' :: Header.hexUnit code) = some (.hexadecimal code false) := by
  have read_eq := readDigits?_hexUnit code
  have unmarked : 'L' ∉ '0' :: 'x' :: Header.hexUnit code := by
    intro mark_mem
    have mark_mem : 'L' ∈ Header.hexUnit code := by simpa using mark_mem
    obtain ⟨digit, small, mark_eq⟩ := isDigitChar_of_mem_hexUnit mark_mem
    exact (by decide : ∀ digit < 16, 'L' ≠ Nat.digitChar digit) digit small mark_eq
  obtain ⟨first, rest, unit_eq⟩ := exists_cons_hexUnit code
  rw [readNumber?, splitLong_of_not_mem unmarked, unit_eq]
  rw [unit_eq] at read_eq
  change (readDigits? 16 (first :: rest)).map (Token.hexadecimal · false) = _
  rw [read_eq]
  rfl

theorem readWord?_of_ne {word : List Char} (not_true : word.head? ≠ some 'T')
    (not_false : word.head? ≠ some 'F') : readWord? word = readNumber? word := by
  unfold readWord?
  rw [if_neg (by rintro rfl; exact not_true rfl), if_neg (by rintro rfl; exact not_false rfl)]

/-! ## Lexemes -/

theorem lexemes?_cons_of_isAlphanum {c : Char} (word : c.isAlphanum = true) (pending rest : List Char) :
    lexemes? pending (c :: rest) = lexemes? (pending ++ [c]) rest := by
  -- No mark is a character of words, so only the last equation applies.
  have ne_mark {mark : Char} (not_word : mark.isAlphanum = false) : c ≠ mark := by
    rintro rfl
    rw [word] at not_word
    cases not_word
  rw [lexemes?, if_pos word]
  · exact fun _ _ quote_eq => absurd quote_eq (ne_mark rfl)
  · exact fun _ _ quote_eq => absurd quote_eq (ne_mark rfl)
  · exact ne_mark rfl
  · exact ne_mark rfl
  · exact ne_mark rfl
  · exact ne_mark rfl

theorem lexemes?_word_append {word : List Char} (word_only : ∀ c ∈ word, c.isAlphanum = true)
    (pending rest : List Char) :
    lexemes? pending (word ++ rest) = lexemes? (pending ++ word) rest := by
  induction word generalizing pending with
  | nil => simp
  | cons c word ih =>
      rw [List.forall_mem_cons] at word_only
      rw [List.cons_append, lexemes?_cons_of_isAlphanum word_only.1, ih word_only.2,
        List.append_assoc]
      rfl

theorem lexemes?_word {word : List Char} (nonempty : word ≠ [])
    (word_only : ∀ c ∈ word, c.isAlphanum = true) : lexemes? [] word = some [.word word] := by
  have read_eq := lexemes?_word_append word_only [] []
  rw [List.append_nil, List.nil_append] at read_eq
  rw [read_eq, lexemes?, wordLexeme, if_neg nonempty]

/-- A word alone is an expression if it is a token. -/
theorem read?_word {word : List Char} {token : Token} (nonempty : word ≠ [])
    (word_only : ∀ c ∈ word, c.isAlphanum = true) (read : readWord? word = some token) :
    read? (String.ofList word) = some (.literal token) := by
  rw [read?, String.toList_ofList, lexemes?_word nonempty word_only, Option.bind_some, readOperand?,
    read]
  rfl

/-- A word after a minus sign is negated. -/
theorem read?_minus_word {word : List Char} {token : Token} (nonempty : word ≠ [])
    (word_only : ∀ c ∈ word, c.isAlphanum = true) (read : readWord? word = some token) :
    read? (String.ofList ('-' :: word)) = some (.negated (.literal token)) := by
  have lexemes_eq : lexemes? [] ('-' :: word) = some [.minus, .word word] := by
    rw [lexemes?, lexemes?_word nonempty word_only]
    rfl
  rw [read?, String.toList_ofList, lexemes_eq, Option.bind_some, readOperand?, readOperand?, read]
  rfl

/-! ## Integers -/

/-- The type of decimal numbers with and without the mark of long ones. -/
def decimalType (isLong : Bool) : IntegerType := if isLong then .longLong else .int

/-- The mark of long numbers. -/
def longMark (isLong : Bool) : List Char := if isLong then ['L', 'L'] else []

theorem isAlphanum_digits_longMark (value : Nat) (isLong : Bool) :
    ∀ c ∈ Nat.toDigits 10 value ++ longMark isLong, c.isAlphanum = true := by
  intro c c_mem
  rcases List.mem_append.mp c_mem with digit_mem | mark_mem
  · exact Json.forall_mem_toDigits (by decide) (·.isAlphanum = true) (by decide) value c
      digit_mem
  · cases isLong with
    | true =>
        obtain rfl : c = 'L' := by simpa [longMark] using mark_mem
        rfl
    | false => cases mark_mem

theorem readWord?_decimal (value : Nat) (isLong : Bool) :
    readWord? (Nat.toDigits 10 value ++ longMark isLong) = some (.decimal value isLong) := by
  have digit_head {mark : Char} (not_digit : mark.isDigit = false) :
      (Nat.toDigits 10 value ++ longMark isLong).head? ≠ some mark := by
    intro head_eq
    obtain ⟨first, rest, digits_eq⟩ :=
      List.exists_cons_of_ne_nil (Nat.toDigits_ne_nil (n := value) (b := 10))
    rw [digits_eq, List.cons_append, List.head?_cons] at head_eq
    obtain rfl := Option.some.inj head_eq
    have digit := Json.isDigit_of_mem_toDigits (digits_eq ▸ List.mem_cons_self)
    rw [not_digit] at digit
    cases digit
  rw [readWord?_of_ne (digit_head rfl) (digit_head rfl)]
  apply readNumber?_decimal
  cases isLong with
  | true => exact splitLong_append _
  | false =>
      rw [longMark, if_neg (by decide), List.append_nil]
      apply splitLong_of_not_mem
      intro mark_mem
      exact absurd (Json.isDigit_of_mem_toDigits mark_mem) (by decide)

/-- A decimal number whose size its type holds denotes its value, with and without a minus sign. -/
theorem denotes_integerDigits (isLong : Bool) {value : Int}
    (fits : (value.natAbs : Int) ≤ (decimalType isLong).greatest) :
    Denotes (String.ofList (Decimal.integerDigits value ++ longMark isLong)) (decimalType isLong)
      value := by
  have nonempty : Nat.toDigits 10 value.natAbs ++ longMark isLong ≠ [] :=
    List.append_ne_nil_of_left_ne_nil Nat.toDigits_ne_nil _
  have word_only := isAlphanum_digits_longMark value.natAbs isLong
  have read := readWord?_decimal value.natAbs isLong
  have signed : (decimalType isLong).isSigned = true := by cases isLong <;> rfl
  -- The range goes one further below zero, so a size that fits can be negated.
  have least_eq : (decimalType isLong).least = -(decimalType isLong).greatest - 1 := by
    cases isLong <;> rfl
  have in_range : (Token.decimal value.natAbs isLong).InRange := by
    refine ⟨?_, fits⟩
    change (decimalType isLong).least ≤ (value.natAbs : Int)
    omega
  unfold Decimal.integerDigits
  split
  · next negative =>
      refine ⟨_, read?_minus_word nonempty word_only read, in_range, rfl, ?_⟩
      have holds : (decimalType isLong).Holds (-(value.natAbs : Int)) := ⟨by omega, by omega⟩
      have value_eq : -(value.natAbs : Int) = value := by omega
      simp only [Expression.value?, if_pos in_range, Option.bind_some]
      change (decimalType isLong).negate? (value.natAbs : Int) = some value
      rw [IntegerType.negate?, if_pos signed, if_pos holds, value_eq]
  · next nonneg =>
      refine ⟨_, read?_word nonempty word_only read, in_range, rfl, ?_⟩
      have value_eq : (value.natAbs : Int) = value := by omega
      simp only [Expression.value?, if_pos in_range]
      exact congrArg some value_eq

example : (read? "-2147483648").bind Expression.value? = none := by decide

/-! ## Characters -/

theorem holds_int_of_unit {code : Nat} (unit : code < UInt16.size) :
    IntegerType.int.Holds (code : Int) := by
  have greatest_eq : IntegerType.int.greatest = 2147483647 := rfl
  have least_eq : IntegerType.int.least = -2147483648 := rfl
  have size_eq : UInt16.size = 65536 := rfl
  exact ⟨by omega, by omega⟩

theorem denotes_hexUnit {code : Nat} (unit : code < UInt16.size) :
    Denotes (String.ofList ('0' :: 'x' :: Header.hexUnit code)) .int code := by
  have word_only : ∀ c ∈ '0' :: 'x' :: Header.hexUnit code, c.isAlphanum = true := by
    simp only [List.forall_mem_cons]
    refine ⟨by decide, by decide, fun c c_mem => ?_⟩
    obtain ⟨digit, small, rfl⟩ := isDigitChar_of_mem_hexUnit c_mem
    exact (by decide : ∀ digit < 16, (Nat.digitChar digit).isAlphanum = true) digit small
  have read : readWord? ('0' :: 'x' :: Header.hexUnit code) = some (.hexadecimal code false) := by
    rw [readWord?_of_ne (by simp) (by simp), readNumber?_hexadecimal]
  have holds := holds_int_of_unit unit
  have type_eq : (Token.hexadecimal code false).type = .int := by
    rw [Token.type, if_neg (by decide), if_pos holds]
  have in_range : (Token.hexadecimal code false).InRange := by
    rw [Token.InRange, type_eq]
    exact holds
  refine ⟨_, read?_word (List.cons_ne_nil _ _) word_only read, in_range, type_eq, ?_⟩
  rw [Expression.value?, if_pos in_range]
  rfl

theorem denotes_quoted {code : Nat} (printable : 0x20 ≤ code ∧ code ≤ 0x7E) (not_quote : code ≠ 0x27)
    (not_backslash : code ≠ 0x5C) :
    Denotes (String.ofList ['\'', Char.ofNat code, '\'']) .int code := by
  have code_eq : (Char.ofNat code).toNat = code := Text.toNat_ofNat (.inl (by omega))
  have ne_of_code {c : Char} (other : code ≠ c.toNat) : Char.ofNat code ≠ c := by
    rintro rfl
    exact other code_eq.symm
  have not_quote_char : Char.ofNat code ≠ '\'' := ne_of_code not_quote
  have not_backslash_char : Char.ofNat code ≠ '\\' := ne_of_code not_backslash
  have lexemes_eq :
      lexemes? [] ['\'', Char.ofNat code, '\''] = some [.character (Char.ofNat code).toNat] := by
    rw [lexemes?, if_pos ⟨not_quote_char, not_backslash_char, by rwa [code_eq]⟩]
    · rfl
    · exact fun _ _ too_short => nomatch too_short
  have holds : IntegerType.int.Holds (code : Int) := holds_int_of_unit (by simp [UInt16.size]; omega)
  have in_range : (Token.character code).InRange := holds
  refine ⟨.literal (.character code), ?_, in_range, rfl, ?_⟩
  · rw [read?, String.toList_ofList, lexemes_eq, code_eq]
    rfl
  · rw [Expression.value?, if_pos in_range]
    rfl

theorem denotes_charLiteral {code : Nat} (unit : code < UInt16.size) :
    Denotes (Header.charLiteral code) .int code := by
  unfold Header.charLiteral
  split_ifs with quote backslash printable
  · subst quote
    exact ⟨.literal (.character 0x27), by decide⟩
  · subst backslash
    exact ⟨.literal (.character 0x5C), by decide⟩
  · exact denotes_quoted printable quote backslash
  · exact denotes_hexUnit unit

end Target

/-! ## Constants -/

/-- The integer that a truth value, a character or an integer is. -/
def Constant.integer? : Constant → Option Int
  | boolean value => some (if value then 1 else 0)
  | char value => some value.toNat
  | byte value => some value.toInt
  | short value => some value.toInt
  | int value => some value.toInt
  | long value => some value.toInt
  | float _ => none
  | double _ => none
  | string _ => none

/-- The type that the literal of such a constant has. -/
def Constant.literalType : Constant → Target.IntegerType
  | long _ => .longLong
  | _ => .int

/-- Whether a constant is an integer depends on its kind only. -/
theorem Constant.exists_integer? {constant other : Constant} {value : Int}
    (integral : constant.integer? = some value) (same_kind : other.primitive? = constant.primitive?) :
    ∃ value, other.integer? = some value := by
  cases constant <;> cases other <;> cases same_kind
  case float.float.refl => cases integral
  case double.double.refl => cases integral
  case string.string.refl => cases integral
  all_goals exact ⟨_, rfl⟩

theorem Constant.eq_of_integer?_eq {first second : Constant} {value : Int}
    (same_kind : first.primitive? = second.primitive?) (first_eq : first.integer? = some value)
    (second_eq : second.integer? = some value) : first = second := by
  have both := first_eq.trans second_eq.symm
  cases first <;> cases second <;> cases same_kind
  case boolean.boolean.refl left right =>
    simp only [integer?, Option.some.injEq] at both
    cases left <;> cases right <;> first | rfl | cases both
  case char.char.refl left right =>
    simp only [integer?, Option.some.injEq, Nat.cast_inj, UInt16.toNat_inj] at both
    rw [both]
  case byte.byte.refl left right =>
    simp only [integer?, Option.some.injEq, Int8.toInt_inj] at both
    rw [both]
  case short.short.refl left right =>
    simp only [integer?, Option.some.injEq, Int16.toInt_inj] at both
    rw [both]
  case int.int.refl left right =>
    simp only [integer?, Option.some.injEq, Int32.toInt_inj] at both
    rw [both]
  case long.long.refl left right =>
    simp only [integer?, Option.some.injEq, Int64.toInt_inj] at both
    rw [both]
  case float.float.refl => cases first_eq
  case double.double.refl => cases first_eq
  case string.string.refl => cases first_eq

namespace Header

open Target (Denotes)

theorem denotes_integerText {value : Int}
    (fits : (value.natAbs : Int) ≤ Target.IntegerType.int.greatest) :
    Denotes (integerText value) .int value := by
  have denoted := Target.denotes_integerDigits false fits
  rwa [Target.longMark, if_neg (by decide), List.append_nil] at denoted

theorem denotes_integerText_long {value : Int}
    (fits : (value.natAbs : Int) ≤ Target.IntegerType.longLong.greatest) :
    Denotes (integerText value ++ "LL") .longLong value := by
  have text_eq : integerText value ++ "LL" =
      String.ofList (Decimal.integerDigits value ++ Target.longMark true) := by
    rw [String.ofList_append]
    rfl
  rw [text_eq]
  exact Target.denotes_integerDigits true fits

/-- The literal of a truth value, a character or an integer has its value. -/
theorem denotes_literal {constant : Constant} {value : Int}
    (integral : constant.integer? = some value) :
    Denotes (literal constant) constant.literalType value := by
  have greatest_int : Target.IntegerType.int.greatest = 2147483647 := rfl
  have greatest_long : Target.IntegerType.longLong.greatest = 9223372036854775807 := rfl
  cases constant with
  | boolean truth =>
      obtain rfl := Option.some.inj integral
      cases truth with
      | true => exact ⟨.literal (.truth true), by decide⟩
      | false => exact ⟨.literal (.truth false), by decide⟩
  | char unit =>
      obtain rfl := Option.some.inj integral
      exact Target.denotes_charLiteral unit.toNat_lt
  | byte number =>
      obtain rfl := Option.some.inj integral
      have low := number.le_toInt
      have high := number.toInt_lt
      exact denotes_integerText (by omega)
  | short number =>
      obtain rfl := Option.some.inj integral
      have low := number.le_toInt
      have high := number.toInt_lt
      exact denotes_integerText (by omega)
  | int number =>
      obtain rfl := Option.some.inj integral
      simp only [literal]
      split
      · next least =>
          subst least
          exact ⟨.converted .int (.literal (.hexadecimal 0x80000000 false)), by decide⟩
      · next not_least =>
          have low := number.le_toInt
          have high := number.toInt_lt
          have above : number.toInt ≠ Int32.minValue.toInt := mt Int32.toInt_inj.mp not_least
          rw [Int32.toInt_minValue] at above
          exact denotes_integerText (by omega)
  | long number =>
      obtain rfl := Option.some.inj integral
      simp only [literal]
      split
      · next least =>
          subst least
          exact ⟨.converted .longLong (.literal (.hexadecimal 0x8000000000000000 true)), by decide⟩
      · next not_least =>
          have low := number.le_toInt
          have high := number.toInt_lt
          have above : number.toInt ≠ Int64.minValue.toInt := mt Int64.toInt_inj.mp not_least
          rw [Int64.toInt_minValue] at above
          exact denotes_integerText_long (by omega)
  | float _ => cases integral
  | double _ => cases integral
  | string _ => cases integral

/-- The literal of a truth value, a character or an integer has exactly its value, and no other constant
of the kind has the same literal. -/
theorem literal_denotes {constant : Constant} {value : Int}
    (integral : constant.integer? = some value) :
    Denotes (literal constant) constant.literalType value ∧
      ∀ other, other.primitive? = constant.primitive? → literal other = literal constant →
        other = constant := by
  refine ⟨denotes_literal integral, fun other same_kind same_text => ?_⟩
  obtain ⟨other_value, other_integral⟩ := Constant.exists_integer? integral same_kind
  have other_denotes := denotes_literal other_integral
  rw [same_text] at other_denotes
  obtain rfl := other_denotes.unique (denotes_literal integral)
  exact Constant.eq_of_integer?_eq same_kind other_integral integral

theorem literal_denotes_least :
    Constant.integer? (.int Int32.minValue) = some (-2147483648) ∧
      Denotes (literal (.int Int32.minValue)) .int (-2147483648) ∧
      ∀ other, other.primitive? = some .int →
        literal other = "((int) 0x80000000)" → other = .int Int32.minValue :=
  have integral : Constant.integer? (.int Int32.minValue) = some (-2147483648) := rfl
  ⟨integral, literal_denotes integral⟩

end Header

end HeaderForge
