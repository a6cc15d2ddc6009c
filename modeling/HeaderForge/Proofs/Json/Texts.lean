import HeaderForge.Json.Printer
import HeaderForge.Proofs.Json.Numbers
import Mathlib.Data.List.Basic

/-!
# Texts read back

A value that is readable, whose strings and keys denote texts and whose numbers are plain, is written as
a text from which it is read again.
-/

namespace HeaderForge.Json

/-! ## Strings -/

/-- The piece that a character of a string is written as. -/
def pieceOf (c : Char) : Piece :=
  if c.toNat < 0x20 ∧ c ∉ ['\x08', '\x0c', '\n', '\r', '\t'] then .unit c.toNat else .char c

theorem hexValue?_hexDigit {value : Nat} (digit : value < 16) :
    hexValue? (hexDigit value) = some value := by
  interval_cases value <;> decide

theorem hexUnit?_control {code : Nat} (control : code < 0x20) (rest : List Char) :
    hexUnit? ('0' :: '0' :: hexDigit (code / 16) :: hexDigit (code % 16) :: rest) =
      some (code, rest) := by
  have high_eq : hexValue? (hexDigit (code / 16)) = some (code / 16) := hexValue?_hexDigit (by omega)
  have low_eq : hexValue? (hexDigit (code % 16)) = some (code % 16) := hexValue?_hexDigit (by omega)
  have zero_eq : hexValue? '0' = some 0 := by decide
  have code_eq : code / 16 * 16 + code % 16 = code := by omega
  simp [hexUnit?, high_eq, low_eq, zero_eq, code_eq]

theorem pieces?_plain {c : Char} (fuel : Nat) (rest : List Char) (not_quote : c ≠ '"')
    (not_backslash : c ≠ '\\') (printable : ¬ c.toNat < 0x20) :
    pieces? (fuel + 1) (c :: rest) =
      (pieces? fuel rest).map fun (pieces, rest) => (.char c :: pieces, rest) := by
  rw [pieces?]
  · simp only [not_backslash, printable, or_self, if_false]
    cases pieces? fuel rest with
    | none => rfl
    | some found => rfl
  · exact not_quote
  · exact fun _ not_escape => absurd not_escape not_backslash
  · exact fun _ _ not_escape => absurd not_escape not_backslash

theorem pieces?_escape {mark c : Char} (fuel : Nat) (rest : List Char) (not_unit : mark ≠ 'u')
    (escape : shortEscape? mark = some c) :
    pieces? (fuel + 1) ('\\' :: mark :: rest) =
      (pieces? fuel rest).map fun (pieces, rest) => (.char c :: pieces, rest) := by
  simp only [pieces?, escape, Option.bind_eq_bind, Option.bind_some]
  cases pieces? fuel rest with
  | none => rfl
  | some found => rfl

theorem pieces?_control {code : Nat} (fuel : Nat) (rest : List Char) (control : code < 0x20) :
    pieces? (fuel + 1)
        ('\\' :: 'u' :: '0' :: '0' :: hexDigit (code / 16) :: hexDigit (code % 16) :: rest) =
      (pieces? fuel rest).map fun (pieces, rest) => (.unit code :: pieces, rest) := by
  simp only [pieces?, hexUnit?_control control, Option.bind_eq_bind, Option.bind_some]
  cases pieces? fuel rest with
  | none => rfl
  | some found => rfl

theorem pieces?_stringChar (c : Char) (fuel : Nat) (rest : List Char) :
    pieces? (fuel + 1) (stringChar c ++ rest) =
      (pieces? fuel rest).map fun (pieces, rest) => (pieceOf c :: pieces, rest) := by
  unfold stringChar
  split
  · next quote => subst quote; exact pieces?_escape fuel rest (by decide) rfl
  split
  · next backslash => subst backslash; exact pieces?_escape fuel rest (by decide) rfl
  split
  · next short => subst short; exact pieces?_escape fuel rest (by decide) rfl
  split
  · next short => subst short; exact pieces?_escape fuel rest (by decide) rfl
  split
  · next short => subst short; exact pieces?_escape fuel rest (by decide) rfl
  split
  · next short => subst short; exact pieces?_escape fuel rest (by decide) rfl
  split
  · next short => subst short; exact pieces?_escape fuel rest (by decide) rfl
  split
  · next control =>
      have piece_eq : pieceOf c = .unit c.toNat := by simp_all [pieceOf]
      rw [piece_eq]
      exact pieces?_control fuel rest control
  · next not_quote not_backslash _ _ _ _ _ printable =>
      have piece_eq : pieceOf c = .char c := by simp [pieceOf, printable]
      rw [piece_eq]
      exact pieces?_plain fuel rest not_quote not_backslash printable

theorem pieces?_flatMap (text rest : List Char) {fuel : Nat} (enough : text.length < fuel) :
    pieces? fuel (text.flatMap stringChar ++ '"' :: rest) = some (text.map pieceOf, rest) := by
  induction text generalizing fuel with
  | nil =>
      obtain ⟨fuel, rfl⟩ := Nat.exists_eq_add_one_of_ne_zero (Nat.ne_zero_of_lt enough)
      rfl
  | cons c text ih =>
      obtain ⟨fuel, rfl⟩ := Nat.exists_eq_add_one_of_ne_zero (Nat.ne_zero_of_lt enough)
      rw [List.flatMap_cons, List.append_assoc, pieces?_stringChar,
        ih (by simpa using enough)]
      rfl

theorem denoted?_unit {code : Nat} (rest : List Piece) (low : code < 0xD800) :
    denoted? (.unit code :: rest) = (denoted? rest).map (Char.ofNat code :: ·) := by
  have not_trailing : isTrailingUnit code = false := by
    simp only [isTrailingUnit, Bool.and_eq_false_iff, decide_eq_false_iff_not]
    omega
  have not_leading : isLeadingUnit code = false := by
    simp only [isLeadingUnit, Bool.and_eq_false_iff, decide_eq_false_iff_not]
    omega
  rw [denoted?.eq_def]
  simp only [not_trailing, not_leading, Bool.false_eq_true, if_false]

theorem denoted?_map_pieceOf (text : List Char) : denoted? (text.map pieceOf) = some text := by
  induction text with
  | nil => rfl
  | cons c text ih =>
      rw [List.map_cons, pieceOf]
      split
      · next control =>
          rw [denoted?_unit _ (by omega), ih, Char.ofNat_toNat]
          rfl
      · rw [denoted?, ih]
        rfl

theorem length_le_flatMap_stringChar (text : List Char) :
    text.length ≤ (text.flatMap stringChar).length := by
  induction text with
  | nil => exact Nat.le_refl 0
  | cons c text ih =>
      have char_nonempty : 1 ≤ (stringChar c).length := by
        unfold stringChar
        repeat' split
        all_goals simp
      rw [List.flatMap_cons, List.length_append, List.length_cons]
      omega

theorem parseString?_append (text : String) (rest : List Char) :
    parseString? (text.toList.flatMap stringChar ++ '"' :: rest) = some (some text, rest) := by
  have enough := length_le_flatMap_stringChar text.toList
  rw [parseString?, pieces?_flatMap _ _ (by rw [List.length_append]; omega)]
  simp [denoted?_map_pieceOf]

/-! ## Values -/

/-- The value is readable, its strings and keys denote texts, and its numbers are plain and denote
something. -/
inductive IsPlain : Json → Prop where
  | null : IsPlain .null
  | bool (value : Bool) : IsPlain (.bool value)
  | number {value : Number} (plain : value.IsPlain) (denotes : value.quantity ≠ .tooLarge) :
      IsPlain (.number value)
  | text (content : String) : IsPlain (.text content)
  | array {items : List Json} (items_plain : ∀ item ∈ items, IsPlain item) :
      IsPlain (.array items)
  | ofMembers {members : List (String × Json)}
      (values_plain : ∀ member ∈ members, IsPlain member.2) : IsPlain (.ofMembers members)

/-- The value is readable, and its strings and keys denote texts; its numbers are plain, but may be too
large to denote anything. -/
inductive IsLegible : Json → Prop where
  | null : IsLegible .null
  | bool (value : Bool) : IsLegible (.bool value)
  | number {value : Number} (plain : value.IsPlain) : IsLegible (.number value)
  | text (content : String) : IsLegible (.text content)
  | array {items : List Json} (items_legible : ∀ item ∈ items, IsLegible item) :
      IsLegible (.array items)
  | ofMembers {members : List (String × Json)}
      (values_legible : ∀ member ∈ members, IsLegible member.2) : IsLegible (.ofMembers members)

theorem IsPlain.isLegible {json : Json} (plain : json.IsPlain) : json.IsLegible := by
  induction plain with
  | null => exact .null
  | bool value => exact .bool value
  | number plain denotes => exact .number plain
  | text content => exact .text content
  | array items_plain ih => exact .array ih
  | ofMembers values_plain ih => exact .ofMembers ih

theorem ofMembers_injective : Function.Injective ofMembers := by
  intro members others members_eq
  have maps_eq := Json.object.inj members_eq
  refine List.map_injective_iff.mpr ?_ maps_eq
  rintro ⟨key, value⟩ ⟨other_key, other_value⟩ member_eq
  simpa using member_eq

theorem isPlain_values {members : List (String × Json)} (plain : (ofMembers members).IsPlain) :
    ∀ member ∈ members, member.2.IsPlain := by
  generalize whole_eq : ofMembers members = whole at plain
  cases plain with
  | ofMembers values_plain => rwa [ofMembers_injective whole_eq]
  | null => cases whole_eq
  | bool value => cases whole_eq
  | number plain denotes => cases whole_eq
  | text content => cases whole_eq
  | array items_plain => cases whole_eq

theorem isLegible_values {members : List (String × Json)} (legible : (ofMembers members).IsLegible) :
    ∀ member ∈ members, member.2.IsLegible := by
  generalize whole_eq : ofMembers members = whole at legible
  cases legible with
  | ofMembers values_legible => rwa [ofMembers_injective whole_eq]
  | null => cases whole_eq
  | bool value => cases whole_eq
  | number plain => cases whole_eq
  | text content => cases whole_eq
  | array items_legible => cases whole_eq

/-- The text ends, or goes on with what may follow an item or a member. -/
def EndsValue (text : List Char) : Prop := ∀ c ∈ text.head?, c = ',' ∨ c = ']' ∨ c = '\x7d'

theorem EndsValue.stopsNumber {text : List Char} (ends : EndsValue text) : StopsNumber text := by
  intro c c_mem
  rcases ends c c_mem with rfl | rfl | rfl <;> decide

theorem skipBlanks_cons {c : Char} (not_blank : isBlank c = false) (text : List Char) :
    skipBlanks (c :: text) = c :: text := by
  rw [skipBlanks, List.dropWhile_cons, not_blank]
  rfl

/-- What the characters of a number, or what is written like one, may start with. -/
def StartsNumber (c : Char) : Prop := c.isDigit = true ∨ c = '-' ∨ c = '.' ∨ c = 'e'

theorem startsNumber_of_hasDigits {number : Number} (digits : HasDigits number.numeral) :
    ∀ c ∈ number.chars.head?, StartsNumber c := by
  obtain ⟨negative, whole, fraction, exponent⟩ := number
  rw [Number.chars, numeral_chars_eq]
  cases negative with
  | true => simp [Decimal.signed, StartsNumber]
  | false =>
      cases whole with
      | cons first others =>
          have first_digit := digits.whole first List.mem_cons_self
          simp [Decimal.signed, StartsNumber, first_digit]
      | nil =>
          cases fraction with
          | cons first others => simp [Decimal.signed, fractionChars, StartsNumber]
          | nil =>
              cases exponent with
              | none => simp [Decimal.signed, fractionChars, exponentChars]
              | some exponent =>
                  simp [Decimal.signed, fractionChars, exponentChars_cons, Number.exponentStyle, StartsNumber]

theorem number_chars_head {number : Number} (plain : number.IsPlain) :
    ∃ c others, number.chars = c :: others ∧ StartsNumber c := by
  have starts := startsNumber_of_hasDigits plain.hasDigits
  cases chars_eq : number.chars with
  | cons c others => exact ⟨c, others, rfl, starts c (by rw [chars_eq]; rfl)⟩
  | nil =>
      have stops : StopsNumber [] := by simp [StopsNumber]
      have read := parseNumber?_append plain stops
      rw [chars_eq] at read
      exact absurd read (by simp [parseNumber?, parseNumeral?, parseWhole?, spanDigits])

/-- No number starts as another value does, or with what may stand before a value or end an array. -/
theorem StartsNumber.excludes {c : Char} (starts : StartsNumber c) :
    c ∉ [' ', '\n', '\t', '\r', 'n', 't', 'f', '"', '[', '\x7b', ']'] := by
  intro c_mem
  simp only [List.mem_cons, List.not_mem_nil, or_false] at c_mem
  rcases c_mem with rfl | rfl | rfl | rfl | rfl | rfl | rfl | rfl | rfl | rfl | rfl <;>
    revert starts <;> unfold StartsNumber <;> decide

theorem StartsNumber.not_blank {c : Char} (starts : StartsNumber c) : isBlank c = false := by
  have excluded := starts.excludes
  simp only [List.mem_cons, List.not_mem_nil, or_false, not_or] at excluded
  simp [isBlank, excluded]

theorem chars_head {json : Json} (legible : json.IsLegible) :
    ∃ c others, json.chars = c :: others ∧ isBlank c = false ∧ c ≠ ']' := by
  cases legible with
  | null => exact ⟨'n', _, rfl, rfl, by decide⟩
  | bool value =>
      cases value with
      | true => exact ⟨'t', _, rfl, rfl, by decide⟩
      | false => exact ⟨'f', _, rfl, rfl, by decide⟩
  | number plain =>
      obtain ⟨c, others, chars_eq, starts⟩ := number_chars_head plain
      refine ⟨c, others, by rw [chars, chars_eq], starts.not_blank, ?_⟩
      rintro rfl
      exact starts.excludes (by simp)
  | text content => exact ⟨'"', _, rfl, rfl, by decide⟩
  | array items_legible => exact ⟨'[', _, by rw [chars], rfl, by decide⟩
  | ofMembers values_legible => exact ⟨'\x7b', _, by rw [ofMembers, chars], rfl, by decide⟩

/-- The value is read back from its characters, given enough fuel. -/
def ReadsBack (json : Json) : Prop :=
  ∀ fuel rest, 2 * json.chars.length ≤ fuel → EndsValue rest →
    parseValue fuel (json.chars ++ rest) = (json, some rest)

theorem parseValue_leaf {c : Char} (fuel : Nat) (text : List Char) (not_blank : isBlank c = false)
    (not_bracket : c ≠ '[') (not_brace : c ≠ '\x7b') :
    parseValue (fuel + 1) (c :: text) = parseLeaf (c :: text) := by
  rw [parseValue, skipBlanks_cons not_blank]
  split
  · next bracket_eq => exact absurd (List.cons.inj bracket_eq).1 not_bracket
  · next brace_eq => exact absurd (List.cons.inj brace_eq).1 not_brace
  · rfl

/-- A value that is neither an array nor an object is read back if it is as a leaf. -/
theorem readsBack_of_leaf {json : Json} {c : Char} {others : List Char}
    (chars_eq : json.chars = c :: others) (not_blank : isBlank c = false)
    (not_bracket : c ≠ '[') (not_brace : c ≠ '\x7b')
    (leaf : ∀ rest, EndsValue rest → parseLeaf (json.chars ++ rest) = (json, some rest)) :
    json.ReadsBack := by
  intro fuel rest enough ends
  have leaf_eq := leaf rest ends
  rw [chars_eq, List.length_cons] at enough
  obtain ⟨fuel, rfl⟩ : ∃ less, fuel = less + 1 := ⟨fuel - 1, by omega⟩
  rw [chars_eq, List.cons_append] at leaf_eq ⊢
  rw [parseValue_leaf fuel _ not_blank not_bracket not_brace, leaf_eq]

theorem parseValue_number {c : Char} (starts : StartsNumber c) (fuel : Nat) (text : List Char) :
    parseValue (fuel + 1) (c :: text) =
      match parseNumber? (c :: text) with
      | some (literal, rest) => (.number literal, some rest)
      | none => (.unreadable, none) := by
  have excluded := starts.excludes
  simp only [List.mem_cons, List.not_mem_nil, or_false, not_or] at excluded
  obtain ⟨_, _, _, _, not_n, not_t, not_f, not_quote, not_bracket, not_brace, _⟩ := excluded
  rw [parseValue_leaf fuel text starts.not_blank not_bracket not_brace]
  unfold parseLeaf
  split
  · next head_eq => exact absurd (List.cons.inj head_eq).1 not_n
  · next head_eq => exact absurd (List.cons.inj head_eq).1 not_t
  · next head_eq => exact absurd (List.cons.inj head_eq).1 not_f
  · next head_eq => exact absurd (List.cons.inj head_eq).1 not_quote
  · rfl

theorem readsBack_number {number : Number} (plain : number.IsPlain) :
    (Json.number number).ReadsBack := by
  intro fuel rest enough ends
  obtain ⟨c, others, chars_eq, starts⟩ := number_chars_head plain
  have number_read := parseNumber?_append plain ends.stopsNumber
  rw [chars, chars_eq, List.length_cons] at enough
  obtain ⟨fuel, rfl⟩ : ∃ less, fuel = less + 1 := ⟨fuel - 1, by omega⟩
  rw [chars_eq, List.cons_append] at number_read
  rw [chars, chars_eq, List.cons_append, parseValue_number starts, number_read]

theorem readsBack_text (content : String) : (Json.text content).ReadsBack := by
  refine readsBack_of_leaf (c := '"') (by rw [text, chars]; rfl) (by decide) (by decide)
    (by decide) ?_
  intro rest ends
  have chars_eq : (Json.text content).chars ++ rest =
      '"' :: (content.toList.flatMap stringChar ++ '"' :: rest) := by
    simp [text, chars, literalChars, stringChars]
  rw [chars_eq, parseLeaf, parseString?_append]
  rfl

theorem laterItemChars_ne_nil (items : List Json) : 1 ≤ (laterItemChars items).length := by
  cases items with
  | nil => simp [laterItemChars]
  | cons item others => simp [laterItemChars]

theorem endsValue_laterItemChars (items : List Json) (rest : List Char) :
    EndsValue (laterItemChars items ++ rest) := by
  cases items with
  | nil => simp [EndsValue, laterItemChars]
  | cons item others => simp [EndsValue, laterItemChars]

theorem parseItems_chars {items : List Json} (reads : ∀ item ∈ items, item.ReadsBack)
    (nonempty : items ≠ []) (fuel : Nat) (rest : List Char)
    (enough : 2 * (itemChars items).length ≤ fuel + 1) :
    parseItems fuel (itemChars items ++ rest) = (items, some rest) := by
  induction items generalizing fuel with
  | nil => exact absurd rfl nonempty
  | cons item others ih =>
      have later_nonempty := laterItemChars_ne_nil others
      rw [itemChars, List.length_append] at enough
      obtain ⟨fuel, rfl⟩ : ∃ less, fuel = less + 1 := ⟨fuel - 1, by omega⟩
      have item_read := reads item List.mem_cons_self fuel (laterItemChars others ++ rest)
        (by omega) (endsValue_laterItemChars others rest)
      rw [itemChars, List.append_assoc, parseItems, item_read]
      cases others with
      | nil => rfl
      | cons next others =>
          have later_eq : laterItemChars (next :: others) = ',' :: itemChars (next :: others) := by
            rw [laterItemChars, itemChars]
            rfl
          rw [later_eq, List.length_cons] at enough
          have others_read := ih
            (fun other other_mem => reads other (List.mem_cons_of_mem _ other_mem))
            (List.cons_ne_nil next others) fuel (by omega)
          rw [later_eq, List.cons_append]
          simp only [skipBlanks_cons (show isBlank ',' = false from rfl), others_read]

theorem readsBack_array {items : List Json} (items_legible : ∀ item ∈ items, item.IsLegible)
    (reads : ∀ item ∈ items, item.ReadsBack) : (Json.array items).ReadsBack := by
  intro fuel rest enough ends
  rw [chars, List.length_cons] at enough
  obtain ⟨fuel, rfl⟩ : ∃ less, fuel = less + 1 := ⟨fuel - 1, by omega⟩
  rw [chars, List.cons_append, parseValue, skipBlanks_cons (show isBlank '[' = false from rfl)]
  cases items with
  | nil => rfl
  | cons item others =>
      have items_read := parseItems_chars reads (List.cons_ne_nil item others) fuel rest
        (by omega)
      obtain ⟨c, text, chars_eq, not_blank, not_bracket⟩ :=
        chars_head (items_legible item List.mem_cons_self)
      have items_eq : itemChars (item :: others) ++ rest =
          c :: (text ++ laterItemChars others ++ rest) := by
        rw [itemChars, chars_eq]
        rfl
      rw [items_eq] at items_read
      simp only [items_eq, skipBlanks_cons not_blank]
      split
      · next bracket_eq => exact absurd (List.cons.inj bracket_eq).1 not_bracket
      · rw [items_read]

/-! ## Objects -/

/-- The members of an object that has keys. -/
def keyed (members : List (String × Json)) : List (Option String × Json) :=
  members.map fun (key, value) => (some key, value)

theorem laterMemberChars_ne_nil (members : List (Option String × Json)) :
    1 ≤ (laterMemberChars members).length := by
  cases members with
  | nil => simp [laterMemberChars]
  | cons member others => simp [laterMemberChars]

theorem endsValue_laterMemberChars (members : List (Option String × Json)) (rest : List Char) :
    EndsValue (laterMemberChars members ++ rest) := by
  cases members with
  | nil => simp [EndsValue, laterMemberChars]
  | cons member others => simp [EndsValue, laterMemberChars]

theorem parseMembers_chars {members : List (String × Json)}
    (reads : ∀ member ∈ members, member.2.ReadsBack) (nonempty : members ≠ []) (fuel : Nat)
    (rest : List Char) (enough : 2 * (memberChars (keyed members)).length ≤ fuel + 1) :
    parseMembers fuel (memberChars (keyed members) ++ rest) = (keyed members, some rest) := by
  induction members generalizing fuel with
  | nil => exact absurd rfl nonempty
  | cons member others ih =>
      obtain ⟨key, value⟩ := member
      have later_nonempty := laterMemberChars_ne_nil (keyed others)
      have chars_eq : memberChars (keyed ((key, value) :: others)) ++ rest =
          '"' :: (key.toList.flatMap stringChar ++ '"' ::
            (':' :: (value.chars ++ (laterMemberChars (keyed others) ++ rest)))) := by
        simp [keyed, memberChars, literalChars, stringChars]
      have length_eq : (memberChars (keyed ((key, value) :: others))).length =
          (literalChars (some key)).length + value.chars.length + 1
            + (laterMemberChars (keyed others)).length := by
        simp [keyed, memberChars]
        omega
      rw [length_eq] at enough
      obtain ⟨fuel, rfl⟩ : ∃ less, fuel = less + 1 := ⟨fuel - 1, by omega⟩
      have value_read := reads (key, value) List.mem_cons_self fuel
        (laterMemberChars (keyed others) ++ rest) (by dsimp only; omega)
        (endsValue_laterMemberChars (keyed others) rest)
      rw [chars_eq, parseMembers, skipBlanks_cons (show isBlank '"' = false from rfl)]
      simp only [parseString?_append, skipBlanks_cons (show isBlank ':' = false from rfl), value_read]
      cases others with
      | nil => rfl
      | cons next others =>
          have later_eq : laterMemberChars (keyed (next :: others)) =
              ',' :: memberChars (keyed (next :: others)) := by
            simp [keyed, laterMemberChars, memberChars]
          rw [later_eq, List.length_cons] at enough
          have others_read := ih
            (fun other other_mem => reads other (List.mem_cons_of_mem _ other_mem))
            (List.cons_ne_nil next others) fuel (by omega)
          rw [later_eq, List.cons_append]
          simp only [skipBlanks_cons (show isBlank ',' = false from rfl), others_read]
          rfl

theorem readsBack_ofMembers {members : List (String × Json)}
    (reads : ∀ member ∈ members, member.2.ReadsBack) : (Json.ofMembers members).ReadsBack := by
  intro fuel rest enough ends
  have chars_eq : (Json.ofMembers members).chars = '\x7b' :: memberChars (keyed members) := by
    rw [ofMembers, chars]
    rfl
  rw [chars_eq, List.length_cons] at enough
  obtain ⟨fuel, rfl⟩ : ∃ less, fuel = less + 1 := ⟨fuel - 1, by omega⟩
  rw [chars_eq, List.cons_append, parseValue,
    skipBlanks_cons (show isBlank '\x7b' = false from rfl)]
  cases members with
  | nil => rfl
  | cons member others =>
      have members_read := parseMembers_chars reads (List.cons_ne_nil member others) fuel
        rest (by omega)
      obtain ⟨text, text_eq⟩ : ∃ text, memberChars (keyed (member :: others)) ++ rest = '"' :: text :=
        ⟨_, rfl⟩
      rw [text_eq] at members_read
      simp only [text_eq, skipBlanks_cons (show isBlank '"' = false from rfl)]
      split
      · next brace_eq => exact absurd (List.cons.inj brace_eq).1 (by decide)
      · rw [members_read]
        rfl

/-! ## Whole texts -/

theorem IsLegible.readsBack {json : Json} (legible : json.IsLegible) : json.ReadsBack := by
  induction legible with
  | null => exact readsBack_of_leaf (c := 'n') rfl rfl (by decide) (by decide) fun _ _ => rfl
  | bool value =>
      cases value with
      | true => exact readsBack_of_leaf (c := 't') rfl rfl (by decide) (by decide) fun _ _ => rfl
      | false => exact readsBack_of_leaf (c := 'f') rfl rfl (by decide) (by decide) fun _ _ => rfl
  | number plain => exact readsBack_number plain
  | text content => exact readsBack_text content
  | array items_legible ih => exact readsBack_array items_legible ih
  | ofMembers values_legible ih => exact readsBack_ofMembers ih

theorem IsPlain.readsBack {json : Json} (plain : json.IsPlain) : json.ReadsBack :=
  plain.isLegible.readsBack

/-- Parsing the text of a value that is read back gives the value. -/
theorem ReadsBack.parse_print {json : Json} (reads : json.ReadsBack) :
    parse json.print = ⟨json, true⟩ := by
  have read := reads (2 * json.chars.length + 1) [] (by omega) (by simp [EndsValue])
  rw [List.append_nil] at read
  rw [parse, print, String.toList_ofList, read]
  rfl

/-- Digits that make no number are unreadable. -/
theorem parse_print_of_unread {number : Number} (digits : HasDigits number.numeral)
    (unread : parseNumber? number.chars = none) :
    parse (Json.number number).print = ⟨.unreadable, false⟩ := by
  have starts := startsNumber_of_hasDigits digits
  have unreadable : parseValue (2 * number.chars.length + 1) number.chars = (.unreadable, none) := by
    cases chars_eq : number.chars with
    | nil => rfl
    | cons c others =>
        rw [chars_eq] at starts unread
        rw [parseValue_number (starts c rfl), unread]
  rw [parse, print, String.toList_ofList, chars, unreadable]

/-! ## Depth -/

mutual

/-- How many arrays and objects of the value stand inside one another. -/
def depth : Json → Nat
  | .array items => itemsDepth items + 1
  | .object members => membersDepth members + 1
  | _ => 0

/-- The greatest depth of the items. -/
def itemsDepth : List Json → Nat
  | [] => 0
  | item :: rest => max (depth item) (itemsDepth rest)

/-- The greatest depth of the values of the members. -/
def membersDepth : List (Option String × Json) → Nat
  | [] => 0
  | (_, value) :: rest => max (depth value) (membersDepth rest)

end

theorem itemsDepth_le_iff (items : List Json) (levels : Nat) :
    itemsDepth items ≤ levels ↔ ∀ item ∈ items, item.depth ≤ levels := by
  induction items with
  | nil => simp [itemsDepth]
  | cons item rest ih => rw [itemsDepth, max_le_iff, ih, List.forall_mem_cons]

theorem membersDepth_keyed_le_iff (members : List (String × Json)) (levels : Nat) :
    membersDepth (keyed members) ≤ levels ↔ ∀ member ∈ members, member.2.depth ≤ levels := by
  induction members with
  | nil => simp [keyed, membersDepth]
  | cons member rest ih =>
      rw [List.forall_mem_cons, ← ih]
      exact max_le_iff

theorem areSound_iff (levels : Nat) (items : List Json) :
    areSound levels items = true ↔ ∀ item ∈ items, item.isSound levels = true := by
  induction items with
  | nil => simp [areSound]
  | cons item rest ih => rw [areSound, Bool.and_eq_true, ih, List.forall_mem_cons]

theorem haveSoundValues_keyed_iff (levels : Nat) (members : List (String × Json)) :
    haveSoundValues levels (keyed members) = true ↔
      ∀ member ∈ members, member.2.isSound levels = true := by
  induction members with
  | nil => simp [keyed, haveSoundValues]
  | cons member rest ih =>
      rw [List.forall_mem_cons, ← ih]
      simp [keyed, haveSoundValues]

/-- A plain value is sound where there are as many levels left as it is deep. -/
theorem IsPlain.isSound {json : Json} (plain : json.IsPlain) {levels : Nat}
    (fits : json.depth ≤ levels) : json.isSound levels = true := by
  induction plain generalizing levels with
  | null => cases levels <;> rfl
  | bool value => cases levels <;> rfl
  | number plain denotes => cases levels <;> simpa [Json.isSound] using denotes
  | text content => cases levels <;> rfl
  | @array items items_plain ih =>
      rw [depth] at fits
      obtain ⟨levels, rfl⟩ : ∃ less, levels = less + 1 := ⟨levels - 1, by omega⟩
      have items_fit := (itemsDepth_le_iff items levels).mp (by omega)
      rw [Json.isSound, areSound_iff]
      exact fun item item_mem => ih item item_mem (items_fit item item_mem)
  | @ofMembers members values_plain ih =>
      have depth_eq : (Json.ofMembers members).depth = membersDepth (keyed members) + 1 := by
        rw [Json.ofMembers, depth]
        rfl
      rw [depth_eq] at fits
      obtain ⟨levels, rfl⟩ : ∃ less, levels = less + 1 := ⟨levels - 1, by omega⟩
      have values_fit := (membersDepth_keyed_le_iff members levels).mp (by omega)
      rw [Json.ofMembers, Json.isSound]
      exact (haveSoundValues_keyed_iff levels members).mpr
        fun member member_mem => ih member member_mem (values_fit member member_mem)

end HeaderForge.Json
