import HeaderForge.Naming.Methods

/-!
# Characters of names

What is written in a name comes from the package and the name of the type, from the short name of the
package, and from letters. So a kind of characters that has all letters, and all characters of these
texts, has all characters of the name.
-/

namespace HeaderForge

namespace Text

variable {kind : Char → Prop}

/-- All characters of the text are of the given kind. -/
def MadeOf (kind : Char → Prop) (text : String) : Prop := ∀ c ∈ text.toList, kind c

instance (kind : Char → Prop) [DecidablePred kind] : DecidablePred (MadeOf kind) := fun text =>
  List.decidableBAll kind text.toList

/-- The character is a letter, or has a higher code point than some letter. -/
def IsHigh (c : Char) : Prop := 0x41 ≤ c.toNat

instance : DecidablePred IsHigh := fun c => inferInstanceAs (Decidable (0x41 ≤ c.toNat))

/-- All letters, and whatever has a higher code point, are of the given kind. -/
def HasLetters (kind : Char → Prop) : Prop := ∀ code, 0x41 ≤ code → kind (Char.ofNat code)

/-! ## Parts and joins of texts -/

theorem MadeOf.mono {other : Char → Prop} {text : String} (sub : ∀ c, kind c → other c)
    (made : MadeOf kind text) : MadeOf other text :=
  fun c c_mem => sub c (made c c_mem)

theorem madeOf_append (first second : String) :
    MadeOf kind (first ++ second) ↔ MadeOf kind first ∧ MadeOf kind second := by
  simp only [MadeOf, String.toList_append, List.forall_mem_append]

theorem madeOf_ofList_iff (chars : List Char) :
    MadeOf kind (String.ofList chars) ↔ ∀ c ∈ chars, kind c := by
  rw [MadeOf, String.toList_ofList]

/-- A text of letters, and of characters that some other text has. -/
theorem madeOf_marked (letters : HasLetters kind) {marks : String} (marks_made : MadeOf kind marks)
    (text : String) (each : MadeOf (fun c => c ∈ marks.toList ∨ IsHigh c) text) :
    MadeOf kind text := by
  intro c c_mem
  rcases each c c_mem with mark | high
  · exact marks_made c mark
  · have c_kind := letters c.toNat high
    rwa [Char.ofNat_toNat] at c_kind

/-- A text of letters alone. -/
theorem madeOf_word (letters : HasLetters kind) (text : String)
    (high : MadeOf IsHigh text) : MadeOf kind text := by
  have no_marks : MadeOf kind "" := fun c c_mem => absurd c_mem (by simp)
  exact madeOf_marked letters no_marks text (high.mono fun c c_high => Or.inr c_high)

theorem madeOf_join {texts : List String} (made : ∀ text ∈ texts, MadeOf kind text) :
    MadeOf kind (String.join texts) := by
  induction texts with
  | nil => simp [MadeOf]
  | cons text rest ih =>
      rw [List.forall_mem_cons] at made
      rw [String.join_cons, madeOf_append]
      exact ⟨made.1, ih made.2⟩

theorem mem_intercalate_of_mem {c : Char} (separator : List Char) {piece : List Char}
    {pieces : List (List Char)} (piece_mem : piece ∈ pieces) (c_mem : c ∈ piece) :
    c ∈ separator.intercalate pieces := by
  induction pieces with
  | nil => simp at piece_mem
  | cons first rest ih =>
      cases rest with
      | nil =>
          obtain rfl : piece = first := by simpa using piece_mem
          simpa using c_mem
      | cons next rest =>
          rw [List.intercalate_cons_cons, List.mem_append, List.mem_append]
          rcases List.mem_cons.mp piece_mem with rfl | piece_mem
          · exact Or.inl (Or.inl c_mem)
          · exact Or.inr (ih piece_mem)

theorem mem_of_mem_splitOn {mark c : Char} {chars piece : List Char}
    (piece_mem : piece ∈ chars.splitOn mark) (c_mem : c ∈ piece) : c ∈ chars := by
  have joined := mem_intercalate_of_mem [mark] piece_mem c_mem
  rwa [List.intercalate_splitOn] at joined

theorem madeOf_split {text : String} (mark : Char) (made : MadeOf kind text) :
    ∀ part ∈ split mark text, MadeOf kind part := by
  intro part part_mem
  obtain ⟨piece, piece_mem, rfl⟩ := List.mem_map.mp part_mem
  rw [madeOf_ofList_iff]
  exact fun c c_mem => made c (mem_of_mem_splitOn piece_mem c_mem)

theorem madeOf_replaceChar {text : String} (old new : Char) (new_kind : kind new)
    (made : MadeOf kind text) : MadeOf kind (replaceChar old new text) := by
  rw [replaceChar, madeOf_ofList_iff]
  intro c c_mem
  obtain ⟨original, original_mem, rfl⟩ := List.mem_map.mp c_mem
  split
  · exact new_kind
  · exact made original original_mem

/-! ## Capital letters -/

theorem toNat_ofNat {code : Nat} (valid : code.isValidChar) : (Char.ofNat code).toNat = code := by
  rw [Char.ofNat, dif_pos valid]
  rfl

/-- A code point that is no character stands for the null character. -/
theorem hasLetters_of_high (null : kind '\x00') (high : ∀ c, IsHigh c → kind c) :
    HasLetters kind := by
  intro code letter
  by_cases valid : code.isValidChar
  · exact high _ (by rwa [IsHigh, toNat_ofNat valid])
  · rw [Char.ofNat, dif_neg valid]
    exact null

theorem letter_of_mem_capitalExpansions :
    ∀ entry ∈ capitalExpansions, ∀ code ∈ entry.2, 0x41 ≤ code := by
  decide +kernel

theorem letter_of_mem_capitalRuns : ∀ run ∈ capitalRuns, 0x41 ≤ run.first + run.offset := by
  decide +kernel

variable (letters : HasLetters kind)
include letters

/-- The capital form of a character is the character itself, or letters. -/
theorem kind_of_mem_capitalForm {letter c : Char} (letter_kind : kind letter)
    (c_mem : c ∈ capitalForm letter) : kind c := by
  unfold capitalForm at c_mem
  split at c_mem
  · next codes found =>
      obtain ⟨code, code_mem, rfl⟩ := List.mem_map.mp c_mem
      obtain ⟨before, after, expansions_eq, _⟩ := List.lookup_eq_some_iff.mp found
      have entry_mem : (letter.toNat, codes) ∈ capitalExpansions := by
        rw [expansions_eq]
        simp
      exact letters code (letter_of_mem_capitalExpansions _ entry_mem code code_mem)
  · split at c_mem
    · next run found =>
        obtain rfl := List.mem_singleton.mp c_mem
        have run_letters := letter_of_mem_capitalRuns run (List.mem_of_find?_eq_some found)
        have covers := List.find?_some found
        simp only [CapitalRun.covers, Bool.and_eq_true, decide_eq_true_eq] at covers
        exact letters _ (by omega)
    · obtain rfl := List.mem_singleton.mp c_mem
      exact letter_kind

theorem madeOf_capitalize {text : String} (made : MadeOf kind text) :
    MadeOf kind (capitalize text) := by
  unfold capitalize
  cases chars_eq : text.toList with
  | nil => simp [MadeOf]
  | cons first rest =>
      have chars_made : ∀ c ∈ first :: rest, kind c := by rwa [← chars_eq]
      rw [List.forall_mem_cons] at chars_made
      rw [madeOf_ofList_iff, List.forall_mem_append]
      exact ⟨fun c c_mem => kind_of_mem_capitalForm letters chars_made.1 c_mem, chars_made.2⟩

theorem madeOf_camelCase {text : String} (made : MadeOf kind text) :
    MadeOf kind (camelCase text) := by
  apply madeOf_join
  intro word word_mem
  obtain ⟨piece, piece_mem, rfl⟩ := List.mem_map.mp word_mem
  exact madeOf_capitalize letters (madeOf_split '.' made piece (List.mem_filter.mp piece_mem).1)

end Text

namespace Naming

open Text (MadeOf HasLetters madeOf_append madeOf_marked madeOf_word)

variable {naming : Naming} {kind : Char → Prop}

/-! ## Names of types -/

/-- The names that the name of a type is made from, and the short names of their packages, have only
characters of the kind. -/
def Spells (naming : Naming) (kind : Char → Prop) : TypeRef → Prop
  | .declared package name _ =>
    MadeOf kind package ∧ (∀ short ∈ naming.shortName? package, MadeOf kind short) ∧
      MadeOf kind name
  | .array _ _ element => naming.Spells kind element
  | _ => True

instance decidableSpells (naming : Naming) (kind : Char → Prop) [DecidablePred kind] :
    DecidablePred (naming.Spells kind)
  | .declared package name _ =>
    inferInstanceAs (Decidable (MadeOf kind package ∧
      (∀ short ∈ naming.shortName? package, MadeOf kind short) ∧ MadeOf kind name))
  | .array _ _ element => decidableSpells naming kind element
  | .primitive .. => .isTrue trivial
  | .unbounded .. => .isTrue trivial
  | .bounded .. => .isTrue trivial

theorem Spells.mono {other : Char → Prop} {type : TypeRef} (sub : ∀ c, kind c → other c)
    (spelled : naming.Spells kind type) : naming.Spells other type := by
  induction type with
  | declared package name sort =>
      obtain ⟨package_made, short_made, name_made⟩ := spelled
      exact ⟨package_made.mono sub, fun short found => (short_made short found).mono sub,
        name_made.mono sub⟩
  | array package name element ih => exact ih spelled
  | primitive package name type => trivial
  | unbounded package name => trivial
  | bounded package name bound ih => trivial

variable (letters : HasLetters kind)
include letters

theorem madeOf_sortEnding (sort : TypeSort) : MadeOf kind (sortEnding sort) :=
  madeOf_word letters (sortEnding sort) (by cases sort <;> decide)

theorem madeOf_arrayClass (element : TypeRef) : MadeOf kind (arrayClass element) := by
  apply madeOf_word letters
  have classes_high : ∀ type : Primitive,
      MadeOf Text.IsHigh (type.arrayClass?.getD SupportLibrary.objectArray) := by
    intro type
    cases type <;> decide
  cases element_eq : element.primitive? with
  | none =>
      rw [arrayClass, element_eq]
      exact classes_high .void
  | some type =>
      rw [arrayClass, element_eq]
      exact classes_high type

theorem madeOf_counterpart {qualifiedName target : String}
    (found : Foundation.targetName? qualifiedName = some target) : MadeOf kind target := by
  have counterparts_high : ∀ counterpart ∈ Foundation.counterparts,
      MadeOf Text.IsHigh counterpart.targetName := by decide
  obtain ⟨counterpart, counterpart_found, rfl⟩ := Option.map_eq_some_iff.mp found
  exact madeOf_word letters _
    (counterparts_high counterpart (List.mem_of_find?_eq_some counterpart_found))

theorem madeOf_packageWord {package : String} (package_made : MadeOf kind package)
    (short_made : ∀ short ∈ naming.shortName? package, MadeOf kind short) :
    MadeOf kind (naming.packageWord package) := by
  rw [packageWord]
  cases found : naming.shortName? package with
  | none => exact Text.madeOf_camelCase letters package_made
  | some short => exact short_made short found

theorem madeOf_fullName {type : TypeRef} (objects : type.isPrimitive = false)
    (spelled : naming.Spells kind type) : MadeOf kind (naming.fullName type) := by
  cases type with
  | primitive package name type => cases objects
  | array package name element => exact madeOf_arrayClass letters element
  | unbounded package name => exact madeOf_word letters "id" (by decide)
  | bounded package name bound => exact madeOf_word letters "id" (by decide)
  | declared package name sort =>
      rw [fullName]
      cases found : Foundation.targetName? (TypeRef.declared package name sort).qualifiedName with
      | some target => exact madeOf_counterpart letters found
      | none =>
          obtain ⟨package_made, short_made, name_made⟩ := spelled
          have underscore : kind '_' := letters 0x5F (by decide)
          rw [Option.getD_none, declaredName, madeOf_append, madeOf_append]
          exact ⟨⟨madeOf_packageWord letters package_made short_made,
            Text.madeOf_replaceChar '.' '_' underscore name_made⟩, madeOf_sortEnding letters sort⟩

theorem madeOf_typeKeyword {type : TypeRef} (spelled : naming.Spells kind type) :
    MadeOf kind (naming.typeKeyword type) := by
  induction type with
  | primitive package name type =>
      exact madeOf_word letters type.capitalName (by cases type <;> decide)
  | declared package name sort =>
      simp only [typeKeyword]
      split
      · exact madeOf_word letters "Id" (by decide)
      · exact madeOf_fullName letters rfl spelled
  | array package name element ih =>
      exact (madeOf_append _ _).mpr ⟨ih spelled, madeOf_word letters "Array" (by decide)⟩
  | unbounded package name => exact madeOf_word letters "Id" (by decide)
  | bounded package name bound ih => exact madeOf_word letters "Id" (by decide)

/-- The type of a variable may have spaces too, and the marks of pointers and protocols. -/
theorem madeOf_variableType (marks_made : MadeOf kind " *<>") {type : TypeRef}
    (spelled : naming.Spells kind type) : MadeOf kind (naming.variableType type) := by
  have pointer_made : ∀ name, MadeOf kind name → MadeOf kind (pointer name) := fun name name_made =>
    (madeOf_append _ _).mpr ⟨name_made, madeOf_marked letters marks_made " *" (by decide)⟩
  cases type with
  | primitive package name type =>
      exact madeOf_marked letters marks_made type.targetName (by cases type <;> decide)
  | array package name element => exact pointer_made _ (madeOf_fullName letters rfl spelled)
  | unbounded package name => exact madeOf_word letters "id" (by decide)
  | bounded package name bound => exact madeOf_word letters "id" (by decide)
  | declared package name sort =>
      have name_made : MadeOf kind (naming.fullName (.declared package name sort)) :=
        madeOf_fullName letters rfl spelled
      simp only [variableType]
      split
      · exact madeOf_word letters "id" (by decide)
      · split
        · rw [adopter, madeOf_append, madeOf_append]
          exact ⟨⟨madeOf_marked letters marks_made "id<" (by decide), name_made⟩,
            madeOf_marked letters marks_made ">" (by decide)⟩
        · exact pointer_made _ name_made

end Naming

end HeaderForge
