import HeaderForge.Proofs.Brackets.Words
import HeaderForge.Proofs.Dependencies

/-!
# Clean names

The names that a header has for types, variables and methods are clean where the words of the unit and
the short names of packages are.
-/

namespace HeaderForge

/-! ## Names of types -/

variable {naming : Naming} (naming_clean : AllClean naming.words)

theorem clean_qualifiedName {type : TypeRef} (clean : AllClean type.words) :
    Clean type.qualifiedName := by
  have parts : Clean type.package ∧ Clean type.name := by
    cases type <;> simp_all [TypeRef.words, TypeRef.package, TypeRef.name]
  rw [TypeRef.qualifiedName]
  split
  · exact parts.2
  · simp [parts, show Clean "." by decide]

theorem clean_sortEnding (sort : TypeSort) : Clean (Naming.sortEnding sort) :=
  Naming.madeOf_sortEnding hasLetters_isCleanChar sort

include naming_clean

theorem clean_shortName {package short : String} (found : naming.shortName? package = some short) :
    Clean short := by
  obtain ⟨entry, entry_found, rfl⟩ := Option.map_eq_some_iff.mp found
  have entry_mem := List.mem_reverse.mp (List.mem_of_find?_eq_some entry_found)
  have entry_clean := AllClean.of_mem_flatMap naming_clean entry_mem
  simp only [allClean_cons] at entry_clean
  exact entry_clean.2.1

theorem clean_packageWord {package : String} (clean : Clean package) :
    Clean (naming.packageWord package) :=
  Naming.madeOf_packageWord hasLetters_isCleanChar clean fun _ found =>
    clean_shortName naming_clean found

theorem spells_of_allClean {type : TypeRef} (clean : AllClean type.words) :
    naming.Spells IsCleanChar type := by
  induction type with
  | declared package name sort =>
      simp only [TypeRef.words, allClean_cons] at clean
      exact ⟨clean.1, fun _ found => clean_shortName naming_clean found, clean.2.1⟩
  | array package name element ih =>
      simp only [TypeRef.words, allClean_cons] at clean
      exact ih clean.2.2
  | primitive package name type => trivial
  | unbounded package name => trivial
  | bounded package name bound => trivial

theorem clean_variableType {type : TypeRef} (clean : AllClean type.words) :
    Clean (naming.variableType type) :=
  Naming.madeOf_variableType hasLetters_isCleanChar (show Clean " *<>" by decide)
    (spells_of_allClean naming_clean clean)

theorem clean_fullName {type : TypeRef} (clean : AllClean type.words) :
    Clean (naming.fullName type) := by
  cases primitive : type.isPrimitive with
  | false =>
      exact Naming.madeOf_fullName hasLetters_isCleanChar primitive
        (spells_of_allClean naming_clean clean)
  | true =>
      -- a variable of a primitive type has the name of the type
      have variable_clean := clean_variableType naming_clean clean
      cases type with
      | primitive package name type => exact variable_clean
      | _ => cases primitive

theorem clean_specificType {type : TypeRef} (clean : AllClean type.words) :
    Clean (naming.specificType type) := by
  induction type with
  | primitive package name type => exact clean_variableType naming_clean clean
  | declared package name sort => exact clean_variableType naming_clean clean
  | array package name element ih => exact clean_variableType naming_clean clean
  | unbounded package name => exact clean_variableType naming_clean clean
  | bounded package name bound ih =>
      simp only [TypeRef.words, allClean_cons] at clean
      exact ih clean.2.2

theorem clean_typeKeyword {type : TypeRef} (clean : AllClean type.words) :
    Clean (naming.typeKeyword type) :=
  Naming.madeOf_typeKeyword hasLetters_isCleanChar (spells_of_allClean naming_clean clean)

theorem clean_bareName {type : TypeRef} (clean : AllClean type.words) :
    Clean (naming.bareName type) :=
  clean_dropEnding _ (clean_fullName naming_clean clean)

omit naming_clean in
theorem clean_unprefixedName {type : TypeRef} (clean : AllClean type.words) :
    Clean (Naming.unprefixedName type) := by
  rw [Naming.unprefixedName, clean_append]
  refine ⟨clean_camelCase (clean_qualifiedName clean), ?_⟩
  cases type.sort? with
  | none => decide
  | some sort => exact clean_sortEnding sort

/-! ## Files -/

omit naming_clean in
theorem clean_fileName {path name : String} {before : List String} (clean : Clean path)
    (found : Path.fileName? path = some (before, name)) : Clean name := by
  unfold Path.fileName? at found
  cases last_eq : (Path.trimIdle (Path.names path)).getLast? with
  | none => simp [last_eq] at found
  | some last =>
      simp only [last_eq] at found
      split_ifs at found
      obtain ⟨-, rfl⟩ := Prod.mk.inj (Option.some.inj found)
      have name_kept := List.mem_reverse.mp (List.mem_of_getLast? last_eq)
      have name_mem := List.mem_reverse.mp ((List.dropWhile_suffix _).subset name_kept)
      exact clean_split '/' clean last name_mem

omit naming_clean in
theorem clean_stemOf {name : String} (clean : Clean name) : Clean (Path.stemOf name) := by
  unfold Path.stemOf
  split
  · next last before parts_eq =>
      have before_clean : AllClean before.reverse := by
        intro word word_mem
        apply clean_split '.' clean
        rw [← List.mem_reverse, parts_eq]
        exact List.mem_cons_of_mem _ (List.mem_reverse.mp word_mem)
      dsimp only
      split
      · exact clean
      · exact clean_intercalate (by decide) before_clean
  · exact clean

omit naming_clean in
theorem clean_stem {unit : SourceUnit} (clean : Clean unit.sourceFile) : Clean unit.stem := by
  rw [SourceUnit.stem, Path.stem?]
  cases found : Path.fileName? unit.sourceFile with
  | none => exact clean
  | some file =>
      obtain ⟨before, name⟩ := file
      exact clean_stemOf (clean_fileName clean found)

theorem clean_mainName {unit : SourceUnit} (clean : AllClean unit.words) :
    Clean (naming.mainName unit) := by
  simp only [SourceUnit.words, allClean_cons] at clean
  obtain ⟨package_clean, file_clean, declarations_clean⟩ := clean
  unfold Naming.mainName
  split
  · next declaration found =>
      have declaration_clean :=
        declarations_clean.of_mem_flatMap (List.mem_of_find?_eq_some found)
      exact clean_fullName naming_clean (allClean_declaration declaration_clean).1
  · exact (clean_append _ _).mpr ⟨clean_packageWord naming_clean package_clean, clean_stem file_clean⟩

/-! ## Methods -/

omit naming_clean in
theorem clean_renderSlots {slots : List Naming.Slot}
    (clean : ∀ slot ∈ slots, Clean slot.render) : Clean (Naming.renderSlots slots) := by
  apply clean_intercalate (by decide)
  intro text text_mem
  obtain ⟨slot, slot_mem, rfl⟩ := List.mem_map.mp text_mem
  exact clean slot slot_mem

omit naming_clean in
theorem clean_render {slot : Naming.Slot} (keyword_clean : Clean slot.keyword)
    (type_clean : Clean slot.type) (name_clean : Clean slot.name) : Clean slot.render := by
  simp +decide [Naming.Slot.render, keyword_clean, type_clean, name_clean]

theorem clean_parameterSlot {lead : String} {parameter : Parameter} (lead_clean : Clean lead)
    (clean : AllClean parameter.words) : Clean (naming.parameterSlot lead parameter).render := by
  simp only [Parameter.words, allClean_cons] at clean
  exact clean_render
    ((clean_append _ _).mpr ⟨lead_clean, clean_typeKeyword naming_clean clean.2⟩)
    (clean_variableType naming_clean clean.2) clean.1

theorem clean_parameters {parameters : List Parameter}
    (clean : AllClean (parameters.flatMap Parameter.words)) :
    Clean (Naming.renderSlots (naming.parameterSlots parameters)) := by
  apply clean_renderSlots
  have each_clean : ∀ lead, Clean lead → ∀ parameter ∈ parameters,
      Clean (naming.parameterSlot lead parameter).render :=
    fun lead lead_clean parameter parameter_mem =>
      clean_parameterSlot naming_clean lead_clean (clean.of_mem_flatMap parameter_mem)
  cases parameters with
  | nil => simp [Naming.parameterSlots]
  | cons first rest =>
      rw [Naming.parameterSlots, List.forall_mem_cons]
      refine ⟨each_clean "With" (by decide) first List.mem_cons_self, ?_⟩
      intro slot slot_mem
      obtain ⟨parameter, parameter_mem, rfl⟩ := List.mem_map.mp slot_mem
      exact each_clean "with" (by decide) parameter (List.mem_cons_of_mem _ parameter_mem)

theorem clean_methodStart {signature : Signature} (clean : AllClean signature.words) :
    Clean (naming.methodStart signature) := by
  rw [allClean_signature_iff] at clean
  have sign_clean : Clean (Naming.methodSign signature) := by
    unfold Naming.methodSign
    split <;> decide
  simp +decide [Naming.methodStart, sign_clean, clean_variableType naming_clean clean.2.2.1]

theorem clean_methodDeclaration {signature : Signature} (clean : AllClean signature.words) :
    Clean (naming.methodDeclaration signature) := by
  have start_clean := clean_methodStart naming_clean clean
  rw [allClean_signature_iff] at clean
  simp [Naming.methodDeclaration, start_clean, clean.1, clean_parameters naming_clean clean.2.2.2]

theorem clean_constructorDeclaration {signature : Signature} (clean : AllClean signature.words) :
    Clean (naming.constructorDeclaration signature) := by
  rw [allClean_signature_iff] at clean
  simp +decide [Naming.constructorDeclaration, clean_parameters naming_clean clean.2.2.2]

omit naming_clean in
theorem forall_mem_zipWith {combine : α → β → γ} {good : γ → Prop} {lefts : List α} {rights : List β}
    (combined : ∀ left ∈ lefts, ∀ right ∈ rights, good (combine left right)) :
    ∀ value ∈ List.zipWith combine lefts rights, good value := by
  induction lefts generalizing rights with
  | nil => simp
  | cons left lefts ih =>
      cases rights with
      | nil => simp
      | cons right rights =>
          rw [List.zipWith_cons_cons, List.forall_mem_cons]
          refine ⟨combined left List.mem_cons_self right List.mem_cons_self, ih ?_⟩
          exact fun other other_mem next next_mem =>
            combined other (List.mem_cons_of_mem _ other_mem) next (List.mem_cons_of_mem _ next_mem)

theorem clean_mappedDeclaration {signature : Signature} {selector : String}
    (clean : AllClean signature.words) (selector_clean : Clean selector) :
    Clean (naming.mappedDeclaration signature selector) := by
  have start_clean := clean_methodStart naming_clean clean
  rw [allClean_signature_iff] at clean
  rw [Naming.mappedDeclaration, clean_append]
  refine ⟨start_clean, ?_⟩
  split
  · exact clean_trimEnd ':' selector_clean
  · apply clean_renderSlots
    apply forall_mem_zipWith
    intro keyword keyword_mem parameter parameter_mem
    have parameter_clean := allClean_parameter_of_mem clean.2.2.2 parameter_mem
    exact clean_render
      (clean_split ':' selector_clean keyword (List.mem_filter.mp keyword_mem).1)
      (clean_variableType naming_clean parameter_clean.2) parameter_clean.1

theorem clean_annotationConstructor {members : List AnnotationMember}
    (clean : AllClean (members.flatMap AnnotationMember.words)) :
    Clean (naming.annotationConstructor members) := by
  rw [Naming.annotationConstructor, clean_append]
  refine ⟨by decide, clean_renderSlots ?_⟩
  have each_clean : ∀ keyword, Clean keyword → ∀ member ∈ Naming.sortedMembers members,
      Clean (naming.memberSlot keyword member).render := by
    intro keyword keyword_clean member member_mem
    have member_clean := allClean_member_of_mem clean (List.mem_mergeSort.mp member_mem)
    exact clean_render keyword_clean (clean_variableType naming_clean member_clean.2)
      ((clean_append _ _).mpr ⟨member_clean.1, by decide⟩)
  have name_clean : ∀ member ∈ Naming.sortedMembers members, Clean member.name := by
    intro member member_mem
    exact (allClean_member_of_mem clean (List.mem_mergeSort.mp member_mem)).1
  cases sorted_eq : Naming.sortedMembers members with
  | nil => simp [Naming.memberSlots]
  | cons first rest =>
      rw [sorted_eq] at each_clean name_clean
      rw [Naming.memberSlots, List.forall_mem_cons]
      constructor
      · exact each_clean _ ((clean_append _ _).mpr
          ⟨by decide, clean_capitalize (name_clean first List.mem_cons_self)⟩) first
          List.mem_cons_self
      · intro slot slot_mem
        obtain ⟨member, member_mem, rfl⟩ := List.mem_map.mp slot_mem
        have in_sorted := List.mem_cons_of_mem first member_mem
        exact each_clean _ (name_clean member in_sorted) member in_sorted

/-! ## Imports -/

omit naming_clean in
theorem clean_fileOf {type : TypeRef} (clean : AllClean type.words) : Clean (Import.fileOf type) := by
  have parts : Clean type.package ∧ Clean type.name := by
    cases type <;> simp_all [TypeRef.words, TypeRef.package, TypeRef.name]
  have top_clean : Clean type.topLevelName := clean_beforeFirst '.' parts.2
  rw [Import.fileOf]
  split
  · exact top_clean
  · simp +decide [clean_replaceChar '.' '/' (by decide) parts.1, top_clean]

omit naming_clean in
theorem allClean_of_mentionedType {unit : SourceUnit} {type : TypeRef}
    (clean : AllClean unit.words) (mentioned : MentionedType unit type) : AllClean type.words := by
  cases mentioned with
  | field declared field_mem =>
      have fields_clean := (allClean_declaration (allClean_of_declared clean declared)).2.1
      exact (allClean_field_of_mem fields_clean field_mem).1
  | result declared method_mem =>
      have methods_clean := (allClean_declaration (allClean_of_declared clean declared)).2.2
      have signature_clean := allClean_signature_of_mem methods_clean method_mem
      exact ((allClean_signature_iff _).mp signature_clean).2.2.1
  | parameter declared method_mem parameter_mem =>
      have methods_clean := (allClean_declaration (allClean_of_declared clean declared)).2.2
      have signature_clean := allClean_signature_of_mem methods_clean method_mem
      have parameters_clean := ((allClean_signature_iff _).mp signature_clean).2.2.2
      exact (allClean_parameter_of_mem parameters_clean parameter_mem).2
  | member declared member_mem =>
      have declaration_clean := allClean_of_declared clean declared
      obtain ⟨-, -, members_clean, -⟩ := (allClean_annotationDeclaration_iff _).mp declaration_clean
      exact (allClean_member_of_mem members_clean member_mem).2

theorem clean_of_mentionedImport {unit : SourceUnit} {entry : Import}
    (clean : AllClean unit.words) (mentioned : MentionedImport naming unit entry) :
    Clean entry.typeName := by
  cases mentioned with
  | objectArray declared => exact show Clean SupportLibrary.objectArray by decide
  | reference mentioned needed =>
      have type_clean := allClean_of_mentionedType clean mentioned
      cases needed with
      | array package name element => exact Naming.madeOf_arrayClass hasLetters_isCleanChar element
      | declared unmapped => exact clean_fullName naming_clean type_clean

omit naming_clean in
theorem clean_of_superTypeImport {unit : SourceUnit} {entry : Import}
    (clean : AllClean unit.words) (extended : SuperTypeImport naming unit entry) :
    Clean entry.file := by
  cases extended with
  | enumBase declared => exact show Clean SupportLibrary.enumBaseFile by decide
  | annotationProtocol declared =>
      exact show Clean SupportLibrary.annotationProtocolFile by decide
  | superclass declared extended unmapped =>
      have declaration_clean := allClean_of_declared clean declared
      obtain ⟨-, superclass_clean, -⟩ := (allClean_typeDeclaration_iff _).mp declaration_clean
      exact clean_fileOf (superclass_clean.of_mem_flatMap (Option.mem_toList.mpr extended))
  | interface declared adopted unmapped =>
      have declaration_clean := allClean_of_declared clean declared
      obtain ⟨-, -, interfaces_clean, -⟩ := (allClean_typeDeclaration_iff _).mp declaration_clean
      exact clean_fileOf (interfaces_clean.of_mem_flatMap adopted)
  | enumInterface declared adopted unmapped =>
      have declaration_clean := allClean_of_declared clean declared
      obtain ⟨-, interfaces_clean, -⟩ := (allClean_enumDeclaration_iff _).mp declaration_clean
      exact clean_fileOf (interfaces_clean.of_mem_flatMap adopted)

end HeaderForge
