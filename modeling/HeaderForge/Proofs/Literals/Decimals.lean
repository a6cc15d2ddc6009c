import HeaderForge.Header.Literals
import HeaderForge.Proofs.Binary.Words
import HeaderForge.Proofs.Decimal.ReadsBack

/-!
# Floating-point literals read back

The decimal text of a finite floating-point value is a numeral with digits on both sides of its point,
and the value of the format that it rounds to, with its sign, is the one it was written for. Infinities
and the two values with a macro have names that no numeral is like. So literals tell values apart, all
but the values that are no numbers.
-/

namespace HeaderForge

namespace Binary

/-- The datum is a finite value. -/
def Datum.IsFinite (datum : Datum) : Prop :=
  ∃ negative significand exponent, datum = .finite negative significand exponent

namespace Format

/-- The text is a numeral with digits on both sides of a point, and the word stands for what it rounds
to, with its sign. -/
def Reads (format : Format) (text : String) (word : Nat) : Prop :=
  ∃ number significand exponent,
    Json.parseNumber? text.toList = some (number, []) ∧
      number.numeral.whole ≠ [] ∧ number.numeral.fraction ≠ [] ∧
      format.RoundsTo number.numeral.value significand exponent ∧
      exponent ≤ format.greatestExponent ∧
      format.encode (.finite number.negative significand exponent) = word

theorem Reads.unique {format : Format} {text : String} {first second : Nat}
    (first_read : format.Reads text first) (second_read : format.Reads text second) :
    first = second := by
  obtain ⟨number, significand, exponent, parsed, -, -, rounds, -, rfl⟩ := first_read
  obtain ⟨other, _, _, other_parsed, -, -, other_rounds, -, rfl⟩ := second_read
  obtain ⟨rfl, -⟩ := Prod.mk.inj (Option.some.inj (parsed.symm.trans other_parsed))
  obtain ⟨rfl, rfl⟩ := rounds.unique other_rounds
  rfl

end Format

end Binary

/-! ## Floating-point constants -/

/-- A word of a format, and the names that the format has for special values. -/
structure FloatingWord where
  /-- The format. -/
  format : Binary.Format
  /-- The names. -/
  names : Header.FloatingNames
  /-- The word. -/
  word : Nat

/-- What the word stands for. -/
def FloatingWord.datum (floating : FloatingWord) : Binary.Datum := floating.format.decode floating.word

/-- The word that a floating-point constant is. -/
def Constant.floating? : Constant → Option FloatingWord
  | float value => some ⟨Binary.singleFormat, Header.singleNames, value.word.toNat⟩
  | double value => some ⟨Binary.doubleFormat, Header.doubleNames, value.word.toNat⟩
  | _ => none

/-- The constant is a floating-point value that is no number. -/
def Constant.IsNaN (constant : Constant) : Prop :=
  ∃ floating, constant.floating? = some floating ∧ floating.datum = .nan

namespace Header

open Binary (Datum Format Single Double singleFormat doubleFormat)
open Decimal (Numeral)

/-! ## Decimal texts -/

/-- The numeral of a finite value without its sign. -/
def literalNumeral (format : Format) (significand : Nat) (exponent : Int) : Numeral :=
  if significand = 0 then .zero
  else (Decimal.shortest format .up significand exponent).layOut literalLayout

theorem decimalText_finite (format : Format) (negative : Bool) (significand : Nat) (exponent : Int) :
    decimalText format (.finite negative significand exponent) =
      String.ofList (Decimal.signed negative
        ((literalNumeral format significand exponent).chars literalExponent)) :=
  rfl

/-- The numeral can be read, and digits follow its point. -/
theorem literalNumeral_isPlain (format : Format) (negative : Bool) (significand : Nat) (exponent : Int) :
    (Json.Number.mk negative (literalNumeral format significand exponent)).IsPlain ∧
      (literalNumeral format significand exponent).fraction ≠ [] := by
  unfold literalNumeral
  split
  · exact ⟨Json.isPlain_zero negative, List.cons_ne_nil _ _⟩
  · next nonzero =>
      have positive := Nat.pos_of_ne_zero nonzero
      have starts := Json.startsNonzero_shortest format .up exponent positive
      exact ⟨Json.isPlain_shortest format .up literalLayout negative exponent positive,
        Decimal.fraction_layOut_ne_nil rfl starts.ne_nil⟩

theorem literalNumeral_roundsTo {format : Format} {significand : Nat} {exponent : Int}
    (canonical : format.IsCanonical significand exponent) :
    format.RoundsTo (literalNumeral format significand exponent).value significand exponent := by
  unfold literalNumeral
  split
  · next zero =>
      subst zero
      have zero_eq : Numeral.zero.value = 0 := by
        have digits_eq : Decimal.wholeValue (['0'] ++ ['0']) = 0 := by decide
        rw [Numeral.value, Numeral.zero, digits_eq, Nat.cast_zero, zero_mul]
      have below_pos := format.unitBelow_pos 0 exponent
      have above_nonneg := Binary.magnitude_nonneg 1 exponent
      have value_eq : Binary.magnitude 0 exponent = 0 := by simp [Binary.magnitude]
      rw [zero_eq]
      exact Format.roundsTo_of_near canonical (by linarith) (by linarith) (fun _ => rfl) (fun _ => rfl)
  · next nonzero =>
      have positive := Nat.pos_of_ne_zero nonzero
      have starts := Json.startsNonzero_shortest format .up exponent positive
      rw [Decimal.value_layOut literalLayout starts.ne_nil]
      exact Decimal.shortest_roundsTo .up canonical positive

theorem isReadable_literalExponent : Json.IsReadable literalExponent := .inr rfl

theorem parseNumber?_decimalText (format : Format) (negative : Bool) (significand : Nat)
    (exponent : Int) {ending : String} (stops : Json.StopsNumber ending.toList) :
    Json.parseNumber? (decimalText format (.finite negative significand exponent) ++ ending).toList =
      some (⟨negative, literalNumeral format significand exponent⟩, ending.toList) := by
  rw [decimalText_finite, String.toList_append, String.toList_ofList]
  exact Json.parseNumber?_signed_append isReadable_literalExponent
    (literalNumeral_isPlain format negative significand exponent).1 stops

/-- The decimal text of a finite value is read as its word. -/
theorem reads_decimalText {format : Format} {word significand : Nat} {negative : Bool} {exponent : Int}
    (small : word < 2 * format.signPlace)
    (finite : format.decode word = .finite negative significand exponent) :
    format.Reads (decimalText format (format.decode word)) word := by
  obtain ⟨canonical, le_greatest⟩ := Format.isCanonical_of_decode finite
  obtain ⟨plain, fraction_ne_nil⟩ := literalNumeral_isPlain format negative significand exponent
  have parsed := parseNumber?_decimalText format negative significand exponent
    (show Json.StopsNumber "".toList by simp [Json.StopsNumber])
  have word_eq := Format.encode_decode small (by rw [finite]; exact nofun)
  rw [finite] at word_eq ⊢
  rw [String.append_empty] at parsed
  exact ⟨_, significand, exponent, parsed, plain.whole.nonempty, fraction_ne_nil,
    literalNumeral_roundsTo canonical, le_greatest, word_eq⟩

/-! ## Names -/

/-- The values that have names. -/
def namedData (format : Format) : List Datum :=
  [.nan, .infinite false, .infinite true, greatestDatum format, leastNormalDatum format]

/-- Their names, in the same order. -/
def FloatingNames.all (names : FloatingNames) : List String :=
  ["NAN", "INFINITY", "-INFINITY", names.greatest, names.leastNormal]

/-- The names differ, no numeral starts one of them, and no numeral goes on with what ends literals. -/
structure FloatingNames.AreTold (names : FloatingNames) : Prop where
  nodup : names.all.Nodup
  not_numeral : ∀ name ∈ names.all, Json.parseNumber? name.toList = none
  stops : Json.StopsNumber names.ending.toList

/-- A literal is a name in its place, or else the decimal text of a finite value. -/
theorem floatingLiteral_cases (format : Format) (names : FloatingNames) (datum : Datum) :
    (∃ index : Nat, (namedData format)[index]? = some datum ∧
        names.all[index]? = some (floatingLiteral format names datum)) ∨
      datum.IsFinite ∧
        floatingLiteral format names datum = decimalText format datum ++ names.ending := by
  cases datum with
  | nan => exact .inl ⟨0, rfl, rfl⟩
  | infinite negative =>
      cases negative with
      | false => exact .inl ⟨1, rfl, rfl⟩
      | true => exact .inl ⟨2, rfl, rfl⟩
  | finite negative significand exponent =>
      unfold floatingLiteral
      dsimp only
      split_ifs with greatest leastNormal
      · exact .inl ⟨3, by rw [greatest]; rfl, rfl⟩
      · exact .inl ⟨4, by rw [leastNormal]; rfl, rfl⟩
      · exact .inr ⟨⟨negative, significand, exponent, rfl⟩, rfl⟩

variable {format : Format} {names : FloatingNames} {first second : Nat}

theorem FloatingNames.AreTold.ne_decimalText (told : names.AreTold) {name : String}
    (name_mem : name ∈ names.all) (negative : Bool) (significand : Nat) (exponent : Int) :
    decimalText format (.finite negative significand exponent) ++ names.ending ≠ name := by
  rintro rfl
  have parsed := parseNumber?_decimalText format negative significand exponent told.stops
  rw [told.not_numeral _ name_mem] at parsed
  cases parsed

/-- Words with one literal stand for one datum. -/
theorem FloatingNames.AreTold.decode_eq (told : names.AreTold) (first_small : first < 2 * format.signPlace)
    (second_small : second < 2 * format.signPlace)
    (same : floatingLiteral format names (format.decode first) =
      floatingLiteral format names (format.decode second)) :
    format.decode first = format.decode second := by
  rcases floatingLiteral_cases format names (format.decode first) with
    ⟨index, first_named, first_name⟩ | ⟨⟨negative, significand, exponent, first_eq⟩, first_text⟩
  · rcases floatingLiteral_cases format names (format.decode second) with
      ⟨place, second_named, second_name⟩ | ⟨⟨negative, significand, exponent, second_eq⟩, second_text⟩
    · rw [same] at first_name
      have index_lt : index < names.all.length := (List.getElem?_eq_some_iff.mp first_name).1
      obtain rfl :=
        (List.getElem?_inj index_lt told.nodup).mp (first_name.trans second_name.symm)
      exact Option.some.inj (first_named.symm.trans second_named)
    · -- A name would be a numeral.
      have name_mem := List.mem_of_getElem? first_name
      rw [same, second_text, second_eq] at name_mem
      exact absurd rfl (told.ne_decimalText name_mem negative significand exponent)
  · rcases floatingLiteral_cases format names (format.decode second) with
      ⟨place, second_named, second_name⟩ | ⟨⟨_, _, _, second_eq⟩, second_text⟩
    · have name_mem := List.mem_of_getElem? second_name
      rw [← same, first_text, first_eq] at name_mem
      exact absurd rfl (told.ne_decimalText name_mem negative significand exponent)
    · rw [first_text, second_text] at same
      have same_text : decimalText format (format.decode first) =
          decimalText format (format.decode second) := by simpa using same
      have first_read := reads_decimalText first_small first_eq
      have second_read := reads_decimalText second_small second_eq
      rw [same_text] at first_read
      rw [first_read.unique second_read]

/-- Words with one literal are equal, unless they stand for no numbers. -/
theorem FloatingNames.AreTold.word_eq_or_nan (told : names.AreTold)
    (first_small : first < 2 * format.signPlace) (second_small : second < 2 * format.signPlace)
    (same : floatingLiteral format names (format.decode first) =
      floatingLiteral format names (format.decode second)) :
    first = second ∨ format.decode first = .nan ∧ format.decode second = .nan := by
  have decode_eq := told.decode_eq first_small second_small same
  by_cases number : format.decode first = .nan
  · exact .inr ⟨number, decode_eq ▸ number⟩
  · left
    calc
      first = format.encode (format.decode first) := (Format.encode_decode first_small number).symm
      _ = format.encode (format.decode second) := by rw [decode_eq]
      _ = second := Format.encode_decode second_small (decode_eq ▸ number)

theorem singleNames_areTold : singleNames.AreTold := by
  refine ⟨by decide, by decide, ?_⟩
  simp [singleNames, Json.StopsNumber]

theorem doubleNames_areTold : doubleNames.AreTold := by
  refine ⟨by decide, by decide, ?_⟩
  simp [doubleNames, Json.StopsNumber]

/-! ## Constants -/

section

variable {constant : Constant} {floating : FloatingWord}

theorem FloatingWord.small_of_floating? (of_constant : constant.floating? = some floating) :
    floating.word < 2 * floating.format.signPlace := by
  have single_eq : 2 * singleFormat.signPlace = UInt32.size := by decide
  have double_eq : 2 * doubleFormat.signPlace = UInt64.size := by decide
  cases constant <;> cases of_constant
  case float.refl value => exact single_eq ▸ value.word.toNat_lt_size
  case double.refl value => exact double_eq ▸ value.word.toNat_lt_size

theorem FloatingWord.areTold_of_floating? (of_constant : constant.floating? = some floating) :
    floating.names.AreTold := by
  cases constant <;> cases of_constant
  case float.refl => exact singleNames_areTold
  case double.refl => exact doubleNames_areTold

theorem literal_of_floating? (of_constant : constant.floating? = some floating) :
    literal constant = floatingLiteral floating.format floating.names floating.datum := by
  cases constant <;> cases of_constant
  case float.refl => rfl
  case double.refl => rfl

theorem decimalText?_of_floating? (of_constant : constant.floating? = some floating) :
    decimalText? constant = some (decimalText floating.format floating.datum) := by
  cases constant <;> cases of_constant
  case float.refl => rfl
  case double.refl => rfl

/-- Floating-point constants of one kind differ at most in their words. -/
theorem exists_floating?_of_kind (of_constant : constant.floating? = some floating)
    {other : Constant} (same_kind : other.primitive? = constant.primitive?) :
    ∃ word, other.floating? = some { floating with word } ∧
      (word = floating.word → other = constant) := by
  cases constant <;> cases of_constant <;> cases other <;> cases same_kind
  case float.refl.float.refl value other =>
    refine ⟨other.word.toNat, rfl, fun same => ?_⟩
    have same_word : other.word = value.word := UInt32.toNat_inj.mp same
    exact congrArg (fun word => Constant.float ⟨word⟩) same_word
  case double.refl.double.refl value other =>
    refine ⟨other.word.toNat, rfl, fun same => ?_⟩
    have same_word : other.word = value.word := UInt64.toNat_inj.mp same
    exact congrArg (fun word => Constant.double ⟨word⟩) same_word

/-- Floating-point constants with one literal are equal, unless they are no numbers. -/
theorem eq_or_nan_of_literal_eq (of_constant : constant.floating? = some floating) {other : Constant}
    (same_kind : other.primitive? = constant.primitive?) (same : literal other = literal constant) :
    other = constant ∨ other.IsNaN ∧ constant.IsNaN := by
  obtain ⟨word, of_other, eq_of_word⟩ := exists_floating?_of_kind of_constant same_kind
  rw [literal_of_floating? of_other, literal_of_floating? of_constant] at same
  have other_small : word < 2 * floating.format.signPlace := FloatingWord.small_of_floating? of_other
  have small := FloatingWord.small_of_floating? of_constant
  have told := FloatingWord.areTold_of_floating? of_constant
  rcases told.word_eq_or_nan other_small small same with same_word | ⟨other_nan, constant_nan⟩
  · exact .inl (eq_of_word same_word)
  · exact .inr ⟨⟨_, of_other, other_nan⟩, ⟨_, of_constant, constant_nan⟩⟩

/-- The names of single values. -/
def FloatingNames.special (names : FloatingNames) : List String :=
  ["INFINITY", "-INFINITY", names.greatest, names.leastNormal]

/-- Each of the names of single values is the literal of a constant. -/
theorem exists_special (of_constant : constant.floating? = some floating) :
    ∀ name ∈ floating.names.special, ∃ special, special.primitive? = constant.primitive? ∧
      literal special = name ∧ ¬ special.IsNaN := by
  have number (floating : FloatingWord) {special : Constant}
      (of_special : special.floating? = some floating) (not_nan : floating.datum ≠ .nan) :
      ¬ special.IsNaN := by
    rintro ⟨other, of_other, nan⟩
    obtain rfl := Option.some.inj (of_special.symm.trans of_other)
    exact not_nan nan
  cases constant <;> cases of_constant
  case float.refl =>
    simp only [FloatingNames.special, List.forall_mem_cons]
    refine ⟨⟨.float ⟨0x7F800000⟩, rfl, by decide, number _ rfl (by decide)⟩,
      ⟨.float ⟨0xFF800000⟩, rfl, by decide, number _ rfl (by decide)⟩,
      ⟨.float ⟨0x7F7FFFFF⟩, rfl, by decide, number _ rfl (by decide)⟩,
      ⟨.float ⟨0x00800000⟩, rfl, by decide, number _ rfl (by decide)⟩, nofun⟩
  case double.refl =>
    simp only [FloatingNames.special, List.forall_mem_cons]
    refine ⟨⟨.double ⟨0x7FF0000000000000⟩, rfl, by decide, number _ rfl (by decide)⟩,
      ⟨.double ⟨0xFFF0000000000000⟩, rfl, by decide, number _ rfl (by decide)⟩,
      ⟨.double ⟨0x7FEFFFFFFFFFFFFF⟩, rfl, by decide, number _ rfl (by decide)⟩,
      ⟨.double ⟨0x0010000000000000⟩, rfl, by decide, number _ rfl (by decide)⟩, nofun⟩

/-- The decimal text of a finite floating-point constant is read as its word, and only constants that
are no numbers share a literal. -/
theorem floating_literal_readsBack (of_constant : constant.floating? = some floating) :
    (floating.datum.IsFinite →
        ∃ text, decimalText? constant = some text ∧ floating.format.Reads text floating.word) ∧
      (∀ other, other.primitive? = constant.primitive? → literal other = literal constant →
        other = constant ∨ other.IsNaN ∧ constant.IsNaN) ∧
      ∀ name ∈ floating.names.special, ∃! special : Constant,
        special.primitive? = constant.primitive? ∧ literal special = name := by
  refine ⟨?_, fun other same_kind same => eq_or_nan_of_literal_eq of_constant same_kind same, ?_⟩
  · rintro ⟨negative, significand, exponent, finite⟩
    exact ⟨_, decimalText?_of_floating? of_constant,
      reads_decimalText (FloatingWord.small_of_floating? of_constant) finite⟩
  · intro name name_mem
    obtain ⟨special, special_kind, rfl, number⟩ := exists_special of_constant name name_mem
    obtain ⟨word, of_special, -⟩ := exists_floating?_of_kind of_constant special_kind
    refine ⟨special, ⟨special_kind, rfl⟩, fun other ⟨other_kind, same⟩ => ?_⟩
    rcases eq_or_nan_of_literal_eq of_special (other_kind.trans special_kind.symm) same with
      same_constant | ⟨-, nan⟩
    · exact same_constant
    · exact absurd nan number

theorem floating_literal_readsBack_least :
    Constant.floating? (.float ⟨1⟩) = some ⟨singleFormat, singleNames, 1⟩ ∧
      decimalText? (.float ⟨1⟩) = some "1.0E-45" ∧ singleFormat.Reads "1.0E-45" 1 ∧
      (∀ other, other.primitive? = some .float → literal other = literal (.float ⟨1⟩) →
        other = .float ⟨1⟩ ∨ other.IsNaN ∧ Constant.IsNaN (.float ⟨1⟩)) ∧
      ∃! special : Constant, special.primitive? = some .float ∧ literal special = "__FLT_MIN__" := by
  have of_constant : Constant.floating? (.float ⟨1⟩) = some ⟨singleFormat, singleNames, 1⟩ := rfl
  have text_eq : decimalText? (.float ⟨1⟩) = some "1.0E-45" := by decide +kernel
  obtain ⟨readsBack, tells, named⟩ := floating_literal_readsBack of_constant
  obtain ⟨text, read_eq, reads⟩ := readsBack ⟨false, 1, -149, by decide⟩
  obtain rfl := Option.some.inj (text_eq.symm.trans read_eq)
  exact ⟨of_constant, text_eq, reads, tells, named "__FLT_MIN__" (by decide)⟩

end

end Header

end HeaderForge
