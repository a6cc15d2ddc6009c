import HeaderForge.Naming.Types
import HeaderForge.Proofs.Splitting

/-!
# Names of declared types

A declared type is called by a word for its package, its own name with underscores for dots, and the
ending of enums. Within a package the name of the type can be read back from this, as long as an
underscore always stands for a dot and only enums end like enums. The alias of a type is spelled from
its qualified name as a whole instead, and so it differs where the type's own name begins in lower case.
-/

namespace HeaderForge

namespace Text

/-! ## Camel case -/

theorem camelCase_append_dot_append (front back : String) :
    camelCase (front ++ "." ++ back) = camelCase front ++ camelCase back := by
  have split_eq : split '.' (front ++ "." ++ back) = split '.' front ++ split '.' back :=
    split_append_singleton_append front back
  rw [camelCase, split_eq, List.filter_append, List.map_append, String.join_append]
  rfl

theorem camelCase_of_whole {name : String} (whole : '.' ∉ name.toList) :
    camelCase name = capitalize name := by
  rw [camelCase, split_of_not_mem whole]
  by_cases empty : name = ""
  · rw [empty]
    rfl
  · simp [empty, String.join_cons]

/-- Only a text that begins with a capital form of its own is its own capitalized form. -/
theorem capitalize_eq_self_iff (text : String) :
    capitalize text = text ↔ ∀ first, text.toList.head? = some first → capitalForm first = [first] := by
  unfold capitalize
  cases chars_eq : text.toList with
  | nil =>
      have empty : text = "" := by simpa using chars_eq
      simp [empty]
  | cons first rest =>
      have cons_eq : first :: rest = [first] ++ rest := rfl
      rw [← String.toList_inj, String.toList_ofList, chars_eq, cons_eq, List.append_left_inj]
      simp

/-! ## Replaced characters and endings -/

variable {old new : Char} {text ending : String}

theorem map_replace_of_not_mem {chars : List Char} (absent : old ∉ chars) :
    (chars.map fun c => if c = old then new else c) = chars := by
  induction chars with
  | nil => rfl
  | cons c chars ih =>
      rw [List.mem_cons, not_or] at absent
      rw [List.map_cons, ih absent.2, if_neg (Ne.symm absent.1)]

theorem replaceChar_of_not_mem (absent : old ∉ text.toList) : replaceChar old new text = text := by
  rw [replaceChar, map_replace_of_not_mem absent, String.ofList_toList]

/-- A replaced character is put back where the new one stood nowhere before. -/
theorem replaceChar_replaceChar (fresh : new ∉ text.toList) :
    replaceChar new old (replaceChar old new text) = text := by
  rw [replaceChar, replaceChar, String.toList_ofList, List.map_map]
  have restored : ∀ c ∈ text.toList,
      ((fun c => if c = new then old else c) ∘ fun c => if c = old then new else c) c = id c := by
    intro c c_mem
    have c_ne : c ≠ new := fun same => fresh (same ▸ c_mem)
    by_cases c_old : c = old
    · simp [c_old]
    · simp [c_old, c_ne]
  rw [List.map_congr_left restored, List.map_id, String.ofList_toList]

theorem endsWith_iff : endsWith text ending = true ↔ ending.toList <:+ text.toList :=
  List.isSuffixOf_iff_suffix

/-- An ending that has neither of the two characters is there before and after the replacement. -/
theorem endsWith_replaceChar (old_absent : old ∉ ending.toList) (new_absent : new ∉ ending.toList) :
    endsWith (replaceChar old new text) ending = endsWith text ending := by
  rw [Bool.eq_iff_iff, endsWith_iff, endsWith_iff, replaceChar, String.toList_ofList,
    List.suffix_map_iff]
  constructor
  · rintro ⟨chars, chars_suffix, ending_eq⟩
    have old_absent' : old ∉ chars := by
      intro old_mem
      have replaced := List.mem_map_of_mem (f := fun c => if c = old then new else c) old_mem
      rw [← ending_eq, if_pos rfl] at replaced
      exact new_absent replaced
    rw [ending_eq, map_replace_of_not_mem old_absent']
    exact chars_suffix
  · intro suffix
    exact ⟨ending.toList, suffix, (map_replace_of_not_mem old_absent).symm⟩

theorem endsWith_append (front ending : String) : endsWith (front ++ ending) ending = true := by
  rw [endsWith_iff, String.toList_append]
  exact List.suffix_append _ _

theorem dropEnding_append (front ending : String) : dropEnding ending (front ++ ending) = front := by
  rw [dropEnding, if_pos (endsWith_append front ending)]
  simp

theorem dropEnding_of_not_endsWith (without : endsWith text ending = false) :
    dropEnding ending text = text := by
  rw [dropEnding, without, if_neg Bool.false_ne_true]

end Text

namespace Naming

/-! ## The parts of a name -/

theorem fullName_of_unmapped (naming : Naming) {package name : String} {sort : TypeSort}
    (unmapped : Foundation.isMapped (TypeRef.declared package name sort).qualifiedName = false) :
    naming.fullName (.declared package name sort) = naming.declaredName package name sort := by
  have no_counterpart :
      Foundation.counterpart? (TypeRef.declared package name sort).qualifiedName = none := by
    simpa [Foundation.isMapped] using unmapped
  rw [fullName, Foundation.targetName?, no_counterpart]
  rfl

theorem camelCase_qualifiedName (type : TypeRef) :
    Text.camelCase type.qualifiedName =
      Text.camelCase type.package ++ Text.camelCase type.name := by
  unfold TypeRef.qualifiedName
  split
  · next no_package =>
      have empty : Text.camelCase "" = "" := rfl
      rw [no_package, empty, String.empty_append]
  · exact Text.camelCase_append_dot_append _ _

/-! ## Aliases -/

/-- An alias is the name without a short name of the package exactly if the type's own name does not
begin with a letter that has another capital form. -/
theorem unprefixedName_eq_fullName_iff {package name : String} (sort : TypeSort)
    (outermost : '.' ∉ name.toList)
    (unmapped : Foundation.isMapped (TypeRef.declared package name sort).qualifiedName = false) :
    unprefixedName (.declared package name sort) = fullName {} (.declared package name sort) ↔
      ∀ first, name.toList.head? = some first → Text.capitalForm first = [first] := by
  have unprefixed_eq : unprefixedName (.declared package name sort) =
      Text.camelCase package ++ Text.capitalize name ++ sortEnding sort := by
    rw [unprefixedName, camelCase_qualifiedName, TypeRef.name, TypeRef.package,
      Text.camelCase_of_whole outermost]
    rfl
  have full_eq : fullName {} (.declared package name sort) =
      Text.camelCase package ++ name ++ sortEnding sort := by
    rw [fullName_of_unmapped {} unmapped, declaredName, Text.replaceChar_of_not_mem outermost]
    rfl
  rw [unprefixed_eq, full_eq, String.append_left_inj, String.append_right_inj,
    Text.capitalize_eq_self_iff]

/-- An enum whose name begins with a capital form, and classes whose names begin with letters whose
capital forms are another letter and two letters. -/
theorem unprefixedName_eq_fullName_iff_of_letters :
    unprefixedName (.declared "org.weather" "Ära" .enumType) =
        fullName {} (.declared "org.weather" "Ära" .enumType) ∧
      unprefixedName (.declared "org.weather" "éclair" .classType) ≠
        fullName {} (.declared "org.weather" "éclair" .classType) ∧
      unprefixedName (.declared "" "ßland" .classType) ≠
        fullName {} (.declared "" "ßland" .classType) := by
  refine ⟨?_, ?_, ?_⟩
  · rw [unprefixedName_eq_fullName_iff .enumType (by decide) (by decide)]
    rintro first ⟨⟩
    decide
  · rw [Ne, unprefixedName_eq_fullName_iff .classType (by decide) (by decide)]
    exact fun capitals => absurd (capitals 'é' rfl) (by decide)
  · rw [Ne, unprefixedName_eq_fullName_iff .classType (by decide) (by decide)]
    exact fun capitals => absurd (capitals 'ß' rfl) (by decide)

/-- The alias of a class whose name begins in lower case is not the name it would have if no package
had a short name. -/
theorem unprefixedName_capitalizes :
    let foo := TypeRef.declared "com.example" "foo" .classType
    '.' ∉ foo.name.toList ∧ Foundation.isMapped foo.qualifiedName = false ∧
      unprefixedName foo = "ComExampleFoo" ∧ fullName {} foo = "ComExamplefoo" ∧
      unprefixedName foo ≠ fullName {} foo := by
  decide

/-! ## Names read back -/

/-- A name that can be read back: every underscore in the name of a type stands for a dot, and only
enums end like enums. -/
structure IsLegible (name : String) : Prop where
  /-- There is no underscore. -/
  noUnderscore : '_' ∉ name.toList
  /-- The end is not that of enums. -/
  noEnding : Text.endsWith name SupportLibrary.enumEnding = false

/-- What follows the word for the package in the name of a type. -/
def ownWord (name : String) (sort : TypeSort) : String :=
  Text.replaceChar '.' '_' name ++ sortEnding sort

/-- The name of a type, and whether it is an enum, as what follows the word for its package tells. -/
def readWord (word : String) : String × Bool :=
  (Text.replaceChar '_' '.' (Text.dropEnding SupportLibrary.enumEnding word),
    Text.endsWith word SupportLibrary.enumEnding)

theorem sortEnding_eq (sort : TypeSort) :
    sortEnding sort = if sort = .enumType then SupportLibrary.enumEnding else "" := by
  cases sort <;> rfl

theorem readWord_ownWord {name : String} (legible : IsLegible name) (sort : TypeSort) :
    readWord (ownWord name sort) = (name, sort == .enumType) := by
  have restored : Text.replaceChar '_' '.' (Text.replaceChar '.' '_' name) = name :=
    Text.replaceChar_replaceChar legible.noUnderscore
  have unended : Text.endsWith (Text.replaceChar '.' '_' name) SupportLibrary.enumEnding = false := by
    rw [Text.endsWith_replaceChar (by decide) (by decide), legible.noEnding]
  rw [ownWord, sortEnding_eq]
  by_cases enum : sort = .enumType
  · rw [if_pos enum, readWord, Text.dropEnding_append, restored, Text.endsWith_append, enum]
    rfl
  · rw [if_neg enum, String.append_empty, readWord, Text.dropEnding_of_not_endsWith unended, restored,
      unended, beq_eq_false_iff_ne.mpr enum]

/-- Types of one package with legible names and without counterparts are called alike exactly if they
have the same name and both are enums or neither is. -/
theorem fullName_eq_fullName_iff (naming : Naming) {package first second : String}
    {firstSort secondSort : TypeSort} (first_legible : IsLegible first)
    (second_legible : IsLegible second)
    (first_unmapped :
      Foundation.isMapped (TypeRef.declared package first firstSort).qualifiedName = false)
    (second_unmapped :
      Foundation.isMapped (TypeRef.declared package second secondSort).qualifiedName = false) :
    naming.fullName (.declared package first firstSort) =
        naming.fullName (.declared package second secondSort) ↔
      first = second ∧ (firstSort = .enumType ↔ secondSort = .enumType) := by
  rw [fullName_of_unmapped naming first_unmapped, fullName_of_unmapped naming second_unmapped,
    declaredName, declaredName, String.append_assoc, String.append_assoc, String.append_right_inj]
  change ownWord first firstSort = ownWord second secondSort ↔ _
  constructor
  · intro same
    have read_same := congrArg readWord same
    rw [readWord_ownWord first_legible, readWord_ownWord second_legible, Prod.mk.injEq,
      Bool.eq_iff_iff, beq_iff_eq, beq_iff_eq] at read_same
    exact read_same
  · rintro ⟨rfl, alike⟩
    simp only [ownWord, sortEnding_eq, alike]

/-- A class and an interface of one name are called alike, but neither an enum of that name nor a class
without the dot is. -/
theorem fullName_eq_fullName_iff_of_cages :
    let naming : Naming := { prefixes := [⟨"org.zoo", "Zoo"⟩] }
    let cageDoor := TypeRef.declared "org.zoo" "Cage.Door" .classType
    naming.fullName cageDoor = naming.fullName (.declared "org.zoo" "Cage.Door" .interfaceType) ∧
      naming.fullName cageDoor ≠ naming.fullName (.declared "org.zoo" "Cage.Door" .enumType) ∧
      naming.fullName cageDoor ≠ naming.fullName (.declared "org.zoo" "CageDoor" .classType) := by
  intro naming cageDoor
  have nested : IsLegible "Cage.Door" := ⟨by decide, by decide⟩
  have flat : IsLegible "CageDoor" := ⟨by decide, by decide⟩
  refine ⟨?_, ?_, ?_⟩
  · exact (fullName_eq_fullName_iff naming nested nested (by decide) (by decide)).mpr (by decide)
  · rw [Ne, fullName_eq_fullName_iff naming nested nested (by decide) (by decide)]
    decide
  · rw [Ne, fullName_eq_fullName_iff naming nested flat (by decide) (by decide)]
    decide

end Naming

end HeaderForge
