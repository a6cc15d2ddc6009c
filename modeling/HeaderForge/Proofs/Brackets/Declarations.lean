import HeaderForge.Proofs.Brackets.Parts

/-!
# Blocks of declarations

Every declaration without comments writes whole blocks with quiet lines around them. A head that is left
open is closed by the line feed that everything after it begins with.
-/

namespace HeaderForge.Header

open Page (Step IsLine line lines indented)

variable {context : Context} {width level : Nat}

/-! ## Heads -/

theorem clean_adopting {protocols : List String} (clean : AllClean protocols) :
    Clean (adopting protocols) := by
  unfold adopting
  split
  · decide
  · have list_clean : Clean (", ".intercalate protocols) := clean_intercalate (by decide) clean
    simp +decide [list_clean]

theorem adopting_of_ne_nil {protocols : List String} (some_protocol : protocols ≠ []) :
    adopting protocols = " < " ++ ", ".intercalate protocols ++ " >" := by
  rw [adopting, if_neg (by simpa using some_protocol)]

theorem isOpener_interface (rest : String) : isOpener ("@interface " ++ rest) = true := by
  simp [isOpener, Text.startsWith]

theorem isLine_start {start rest : String} (single : IsLine start) (rest_clean : Clean rest) :
    IsLine (start ++ rest) :=
  (isLine_append _ _).mpr ⟨single, isLine_of_clean rest_clean⟩

theorem isPlainHead_interface {rest ending : String} (last : Char) (rest_clean : Clean rest)
    (ending_clean : Clean ending) (last_eq : ending.toList.getLast? = some last)
    (not_brace : last ≠ '\x7b') : IsPlainHead ("@interface " ++ rest ++ ending) := by
  have head_last : ("@interface " ++ rest ++ ending).toList.getLast? = some last := by
    rw [String.toList_append, List.getLast?_append, last_eq, Option.some_or]
  refine ⟨?_, ?_, endsWith_eq_false_of_last head_last rfl not_brace⟩
  · rw [String.append_assoc]
    exact isLine_start (by simp [IsLine]) ((clean_append _ _).mpr ⟨rest_clean, ending_clean⟩)
  · rw [String.append_assoc]
    exact isOpener_interface _

/-- The head of a protocol that adopts others is no statement that it exists. -/
theorem isPlainHead_protocol {name : String} {protocols : List String} (name_clean : Clean name)
    (protocols_clean : AllClean protocols) (some_protocol : protocols ≠ []) :
    IsPlainHead ("@protocol " ++ name ++ adopting protocols) := by
  have last_eq : ("@protocol " ++ name ++ adopting protocols).toList.getLast? = some '>' := by
    rw [adopting_of_ne_nil some_protocol, ← String.append_assoc, String.toList_append,
      List.getLast?_append]
    rfl
  refine ⟨?_, ?_, endsWith_eq_false_of_last last_eq rfl (by decide)⟩
  · rw [String.append_assoc]
    exact isLine_start (by simp [IsLine])
      ((clean_append _ _).mpr ⟨name_clean, clean_adopting protocols_clean⟩)
  · have statement : Text.endsWith ("@protocol " ++ name ++ adopting protocols) ";" = false :=
      endsWith_eq_false_of_last last_eq rfl (by decide)
    rw [isOpener, statement]
    simp [Text.startsWith]

variable (naming_clean : AllClean context.naming.words)

section

include naming_clean

theorem allClean_fullNames {types : List TypeRef} (clean : AllClean (types.flatMap TypeRef.words)) :
    AllClean (types.map context.naming.fullName) := by
  intro name name_mem
  obtain ⟨type, type_mem, rfl⟩ := List.mem_map.mp name_mem
  exact clean_fullName naming_clean (clean.of_mem_flatMap type_mem)

/-! ## Classes and interfaces -/

theorem writesBlocks_interface {declaration : TypeDeclaration} (clean : AllClean declaration.words)
    (undocumented : ∀ method ∈ declaration.methods, method.doc = none) :
    WritesBlocks width 1
      (protocolHead context declaration
        ++ (methodsSteps context declaration.methods ++ blockEnd)) := by
  obtain ⟨type_clean, -, interfaces_clean, -, -, methods_clean⟩ :=
    (allClean_typeDeclaration_iff _).mp clean
  obtain ⟨inside, inside_eq, inside_quiet⟩ :=
    methodsSteps_blockEnd naming_clean methods_clean undocumented
  have protocols_clean :
      AllClean (declaration.interfaces.map context.naming.fullName ++ rootProtocols) :=
    (allClean_append _ _).mpr
      ⟨allClean_fullNames naming_clean interfaces_clean, by decide⟩
  have head := isPlainHead_protocol (clean_fullName naming_clean type_clean) protocols_clean
    (by simp [rootProtocols])
  rw [inside_eq, protocolHead]
  -- A head left open takes the first line feed of the methods for the end of its own line.
  split
  · exact writesBlocks_plain head inside_quiet.newline_cons
  · exact writesBlocks_plain head inside_quiet

theorem isLine_classLine {declaration : TypeDeclaration} (clean : AllClean declaration.words) :
    IsLine (classLine context declaration) := by
  obtain ⟨type_clean, superclass_clean, interfaces_clean, -⟩ :=
    (allClean_typeDeclaration_iff _).mp clean
  have super_clean : Clean (superName context declaration) := by
    unfold superName
    split
    · next superclass superclass_eq =>
        apply clean_fullName naming_clean
        exact superclass_clean.of_mem_flatMap (by simp [superclass_eq])
    · decide
  have adopting_clean := clean_adopting (allClean_fullNames naming_clean interfaces_clean)
  have name_clean := clean_fullName naming_clean type_clean
  unfold classLine
  simp only [String.append_assoc]
  exact isLine_start (by simp [IsLine])
    (by simp +decide [name_clean, super_clean, adopting_clean])

theorem writesBlocks_class {declaration : TypeDeclaration} (clean : AllClean declaration.words)
    (fields_undocumented : ∀ field ∈ declaration.fields, field.doc = none)
    (undocumented : ∀ method ∈ declaration.methods, method.doc = none)
    (filled : ∀ field ∈ declaration.fields, field.fragments ≠ []) :
    WritesBlocks width 1
      ((classHead context declaration).steps
        ++ (methodsSteps context declaration.methods ++ blockEnd)) := by
  have single := isLine_classLine naming_clean clean
  have opens : isOpener (classLine context declaration) = true := by
    unfold classLine
    simp only [String.append_assoc]
    exact isOpener_interface _
  obtain ⟨-, -, -, -, fields_clean, methods_clean⟩ := (allClean_typeDeclaration_iff _).mp clean
  obtain ⟨inside, inside_eq, inside_quiet⟩ :=
    methodsSteps_blockEnd naming_clean methods_clean undocumented
  have variables_quiet : WritesQuiet width 0
      (instanceVariables context declaration.type declaration.fields).steps :=
    writesQuiet_instanceVariables naming_clean fields_clean fields_undocumented filled
  have blocks := writesBlocks_braced single opens variables_quiet inside_quiet.newline_cons
  rw [inside_eq, classHead_steps context filled]
  simpa [closingBrace] using blocks

theorem writesBlocks_typeHead {declaration : TypeDeclaration} (clean : AllClean declaration.words)
    (fields_undocumented : ∀ field ∈ declaration.fields, field.doc = none)
    (undocumented : ∀ method ∈ declaration.methods, method.doc = none)
    (filled : ∀ field ∈ declaration.fields, field.fragments ≠ []) :
    WritesBlocks width 1
      ((typeHead context declaration).steps
        ++ (methodsSteps context declaration.methods ++ blockEnd)) := by
  unfold typeHead
  split
  · exact writesBlocks_interface naming_clean clean undocumented
  · exact writesBlocks_class naming_clean clean fields_undocumented undocumented filled

theorem writesBlocks_companionClass {declaration : TypeDeclaration}
    (type_clean : AllClean declaration.type.words) :
    WritesBlocks width 0 (companionClass context declaration) := by
  have name_clean := clean_fullName naming_clean type_clean
  unfold companionClass
  split
  · have head : IsPlainHead ("@interface " ++ context.naming.fullName declaration.type ++ " : "
        ++ SupportLibrary.rootObject) := by
      simp only [String.append_assoc]
      rw [← String.append_assoc]
      exact isPlainHead_interface 't' name_clean (by decide) (by decide) (by decide)
    have inside_quiet : WritesQuiet width 0 [.newline] := writesQuiet_newline
    have block := (writesBlocks_plain head inside_quiet).of_le (Nat.zero_le 1)
    simpa [blockEnd] using block.quiet_append writesQuiet_newline
  · exact writesQuiet_nil.blocks

theorem writesBlocks_typeStatics {declaration : TypeDeclaration}
    (clean : AllClean declaration.words) :
    WritesBlocks width 0 (typeStatics context declaration) := by
  obtain ⟨type_clean, -, -, -, fields_clean, -⟩ := (allClean_typeDeclaration_iff _).mp clean
  have init_quiet : WritesQuiet width 0 (staticInit context declaration.type declaration.methods) :=
    writesQuiet_staticInit naming_clean type_clean declaration.methods
  have storage_quiet :
      WritesQuiet width 0 (staticVariables context declaration.type declaration.fields) :=
    writesQuiet_staticVariables naming_clean type_clean fields_clean
  unfold typeStatics
  split
  · exact ((writesBlocks_companionClass naming_clean type_clean).append_quiet
      init_quiet).append_quiet storage_quiet
  · have setters_quiet :
        WritesQuiet width 0 (fieldSetters context declaration.type declaration.fields) :=
      writesQuiet_fieldSetters naming_clean type_clean fields_clean
    exact ((init_quiet.append setters_quiet).append storage_quiet).blocks

theorem writesBlocks_nativeBlock {declaration : TypeDeclaration}
    (clean : AllClean declaration.words) :
    WritesBlocks width 0 (nativeBlock context declaration) := by
  obtain ⟨type_clean, -, -, -, -, methods_clean⟩ := (allClean_typeDeclaration_iff _).mp clean
  have name_clean := clean_fullName naming_clean type_clean
  unfold nativeBlock
  split
  · exact writesQuiet_nil.blocks
  · have head : IsPlainHead ("@interface " ++ context.naming.fullName declaration.type ++ " ("
        ++ SupportLibrary.nativeCategory ++ ")") := by
      simp only [String.append_assoc]
      rw [← String.append_assoc]
      exact isPlainHead_interface ')' name_clean (by decide) (by decide) (by decide)
    have methods_quiet : ∀ text ∈ (externalNatives declaration.methods).map (nativeLine context),
        WritesQuiet width 0 (line text) := by
      intro text text_mem
      obtain ⟨method, method_mem, rfl⟩ := List.mem_map.mp text_mem
      have signature_clean :=
        allClean_signature_of_mem methods_clean (List.mem_filter.mp method_mem).1
      exact writesQuiet_append (clean_methodDeclaration naming_clean signature_clean) (by decide)
    have block := (writesBlocks_plain head (writesQuiet_lines methods_quiet)).of_le (Nat.zero_le 1)
    simpa using block.quiet_append writesQuiet_newline

theorem writesBlocks_typeBody {declaration : TypeDeclaration} (clean : AllClean declaration.words)
    (undocumented : (Declaration.ofType declaration).docs = [])
    (filled : ∀ field ∈ declaration.fields, field.fragments ≠ []) :
    WritesBlocks width 1 (typeBody context declaration) := by
  rw [Declaration.docs_eq_nil_iff] at undocumented
  obtain ⟨doc_eq, fields_undocumented, methods_undocumented⟩ := undocumented
  have type_clean : AllClean declaration.type.words :=
    ((allClean_typeDeclaration_iff _).mp clean).1
  have above_quiet : WritesQuiet width 0 (docLines declaration.doc
      ++ deprecatedLine context (isDeprecated declaration.annotations)) :=
    (writesQuiet_docLines doc_eq).append (writesQuiet_deprecatedLine _)
  have block : WritesBlocks width 1 ((typeHead context declaration).steps
      ++ (methodsSteps context declaration.methods ++ blockEnd)) :=
    writesBlocks_typeHead naming_clean clean fields_undocumented methods_undocumented filled
  have statics : WritesBlocks width 0 (typeStatics context declaration) :=
    writesBlocks_typeStatics naming_clean clean
  have after := ((statics.append_quiet
    (writesQuiet_boxedSteps naming_clean type_clean)).append_quiet
    (writesQuiet_prefixAlias naming_clean type_clean declaration.isTopLevel)).append
    (writesBlocks_nativeBlock naming_clean clean)
  simpa [typeBody] using (block.append after).quiet_append above_quiet

/-! ## Enums -/

omit naming_clean in
theorem clean_repr (value : Nat) : Clean value.repr := by
  intro c c_mem
  have digit : c.isDigit = true := by
    rw [Nat.toList_repr] at c_mem
    exact Nat.isDigit_of_mem_toDigits (by decide) (by decide) c_mem
  refine ⟨?_, ?_, ?_⟩ <;> rintro rfl <;> exact absurd digit (by decide)

theorem clean_enumeratorName {declaration : EnumDeclaration} {constant : EnumConstant}
    (clean : AllClean declaration.words) (constant_mem : constant ∈ declaration.constants) :
    Clean (enumeratorName context declaration constant) := by
  obtain ⟨type_clean, -, -, constants_clean, -⟩ := (allClean_enumDeclaration_iff _).mp clean
  have name_clean := (allClean_constant_of_mem constants_clean constant_mem).1
  simp +decide [enumeratorName, clean_bareName naming_clean type_clean, name_clean]

theorem writesQuiet_enumeration {declaration : EnumDeclaration} (clean : AllClean declaration.words) :
    WritesQuiet width 0 (enumeration context declaration) := by
  have type_clean : AllClean declaration.type.words :=
    ((allClean_enumDeclaration_iff _).mp clean).1
  have name_clean := clean_bareName naming_clean type_clean
  have numbered_quiet : ∀ text ∈ declaration.constants.zipIdx.map (enumeratorLine context declaration),
      WritesQuiet width 1 (line text) := by
    intro text text_mem
    obtain ⟨numbered, numbered_mem, rfl⟩ := List.mem_map.mp text_mem
    have constant_mem := List.fst_mem_of_mem_zipIdx numbered_mem
    have enumerator_clean := clean_enumeratorName naming_clean clean constant_mem
    exact writesQuiet_append (by simp +decide [enumerator_clean, clean_repr]) (by decide)
  unfold enumeration
  split
  · exact writesQuiet_nil
  · have first_quiet : WritesQuiet width 0 (line "typedef enum \x7b") :=
      writesQuiet_line (by decide) (by decide)
    have last_quiet : WritesQuiet width 0
        (line ("\x7d " ++ context.naming.bareName declaration.type ++ ";")) :=
      writesQuiet_append (by simp +decide [name_clean]) (by decide)
    exact ((first_quiet.append (writesQuiet_lines numbered_quiet).indented).append
      last_quiet).append writesQuiet_newline

theorem isLine_enumLine {declaration : EnumDeclaration} (clean : AllClean declaration.words) :
    IsLine (enumLine context declaration) := by
  obtain ⟨type_clean, interfaces_clean, -⟩ := (allClean_enumDeclaration_iff _).mp clean
  have protocols_clean : AllClean (enumProtocols context declaration) := by
    rw [enumProtocols, allClean_cons]
    refine ⟨by decide, allClean_fullNames naming_clean ?_⟩
    intro word word_mem
    obtain ⟨type, type_mem, word_mem⟩ := List.mem_flatMap.mp word_mem
    exact interfaces_clean.of_mem_flatMap (List.mem_filter.mp type_mem).1 word word_mem
  have name_clean := clean_fullName naming_clean type_clean
  unfold enumLine
  simp only [String.append_assoc]
  exact isLine_start (by simp [IsLine])
    (by simp +decide [name_clean, clean_adopting protocols_clean])

omit naming_clean in
theorem writesQuiet_enumMethods {className : String} (name_clean : Clean className) :
    WritesQuiet width 0 (lines (enumMethods className)) := by
  apply writesQuiet_lines
  simp only [enumMethods, List.forall_mem_cons]
  refine ⟨writesQuiet_line (by decide) (by decide), ?_,
    writesQuiet_line (by decide) (by decide), by simp⟩
  exact writesQuiet_append (by simp +decide [name_clean]) (by decide)

theorem writesBlocks_enum {declaration : EnumDeclaration} (clean : AllClean declaration.words)
    (fields_undocumented : ∀ field ∈ declaration.fields, field.doc = none)
    (undocumented : ∀ method ∈ declaration.methods, method.doc = none)
    (filled : ∀ field ∈ declaration.fields, field.fragments ≠ []) :
    WritesBlocks width 1
      ((enumHead context declaration).steps
        ++ (lines (enumMethods (context.naming.fullName declaration.type))
          ++ (methodsSteps context declaration.methods ++ line endLine))) := by
  have single := isLine_enumLine naming_clean clean
  have opens : isOpener (enumLine context declaration) = true := by
    unfold enumLine
    simp only [String.append_assoc]
    exact isOpener_interface _
  obtain ⟨type_clean, -, -, -, fields_clean, methods_clean⟩ :=
    (allClean_enumDeclaration_iff _).mp clean
  have name_clean := clean_fullName naming_clean type_clean
  have variables_quiet : WritesQuiet width 0
      (instanceVariables context declaration.type declaration.fields).steps :=
    writesQuiet_instanceVariables naming_clean fields_clean fields_undocumented filled
  have methods_quiet : WritesQuiet width 0
      (lines (enumMethods (context.naming.fullName declaration.type))
        ++ methodsSteps context declaration.methods) :=
    (writesQuiet_enumMethods name_clean).append
      (writesQuiet_methodsSteps naming_clean methods_clean undocumented)
  have blocks := writesBlocks_braced single opens variables_quiet methods_quiet
  rw [enumHead_steps context filled]
  simpa [closingBrace] using blocks

theorem writesQuiet_valuesArray {declaration : EnumDeclaration}
    (type_clean : AllClean declaration.type.words) :
    WritesQuiet width 0 (valuesArray context declaration) := by
  have name_clean := clean_fullName naming_clean type_clean
  have size_clean :
      Clean (if declaration.constants = [] then "" else declaration.constants.length.repr) := by
    split
    · decide
    · exact clean_repr _
  exact (writesQuiet_append (by simp +decide [name_clean, size_clean]) (by decide)).newline_cons

theorem writesQuiet_constantAccess {declaration : EnumDeclaration} {constant : EnumConstant}
    (clean : AllClean declaration.words) (constant_mem : constant ∈ declaration.constants) :
    WritesQuiet width 0 (constantAccess context declaration constant) := by
  have enumerator_clean := clean_enumeratorName naming_clean clean constant_mem
  obtain ⟨type_clean, -, -, constants_clean, -⟩ := (allClean_enumDeclaration_iff _).mp clean
  have storage_clean := (allClean_constant_of_mem constants_clean constant_mem).2
  have owner_clean := clean_fullName naming_clean type_clean
  have name_clean := clean_staticName storage_clean
  apply WritesQuiet.newline_cons
  apply writesQuiet_lines
  simp only [List.forall_mem_cons]
  refine ⟨?_, writesQuiet_macroCall (by decide) (by simp +decide [owner_clean, name_clean]), by simp⟩
  simp only [String.append_assoc]
  exact writesQuiet_define
    (isLine_of_clean (by simp +decide [owner_clean, name_clean, enumerator_clean]))

theorem writesBlocks_enumBody {declaration : EnumDeclaration} (clean : AllClean declaration.words)
    (undocumented : (Declaration.ofEnum declaration).docs = [])
    (filled : ∀ field ∈ declaration.fields, field.fragments ≠ []) :
    WritesBlocks width 1 (enumBody context declaration) := by
  rw [Declaration.docs_eq_nil_iff] at undocumented
  obtain ⟨doc_eq, fields_undocumented, methods_undocumented⟩ := undocumented
  have above_quiet : WritesQuiet width 0 (enumeration context declaration
      ++ docLines declaration.doc
      ++ deprecatedLine context (isDeprecated declaration.annotations)) :=
    ((writesQuiet_enumeration naming_clean clean).append
      (writesQuiet_docLines doc_eq)).append (writesQuiet_deprecatedLine _)
  have block : WritesBlocks width 1 ((enumHead context declaration).steps
      ++ (lines (enumMethods (context.naming.fullName declaration.type))
        ++ (methodsSteps context declaration.methods ++ line endLine))) :=
    writesBlocks_enum naming_clean clean fields_undocumented methods_undocumented filled
  have constants_quiet : WritesQuiet width 0
      (declaration.constants.flatMap (constantAccess context declaration)) :=
    writesQuiet_flatMap fun constant constant_mem =>
      writesQuiet_constantAccess naming_clean clean constant_mem
  obtain ⟨type_clean, -, -, -, fields_clean, -⟩ := (allClean_enumDeclaration_iff _).mp clean
  have after_quiet := ((((writesQuiet_staticInit naming_clean type_clean declaration.methods).append
    (writesQuiet_valuesArray naming_clean type_clean)).append constants_quiet).append
    (writesQuiet_staticVariables naming_clean type_clean fields_clean)).append
    ((writesQuiet_fieldSetters naming_clean type_clean fields_clean).append
    (writesQuiet_prefixAlias naming_clean type_clean declaration.isTopLevel))
  simpa [enumBody] using (block.append_quiet after_quiet).quiet_append above_quiet

/-! ## Annotation types -/

omit naming_clean in
theorem clean_memberVariable {type : String} {member : AnnotationMember} (type_clean : Clean type)
    (name_clean : Clean member.name) : Clean (memberVariable type member) := by
  simp +decide [memberVariable, type_clean, name_clean, clean_nameSeparator]

theorem writesQuiet_properties {members : List AnnotationMember}
    (clean : AllClean (members.flatMap AnnotationMember.words)) :
    WritesQuiet width 0 (properties context members) := by
  have lines_quiet : ∀ text ∈ members.flatMap (propertyLines context),
      WritesQuiet width 0 (line text) := by
    intro text text_mem
    obtain ⟨member, member_mem, text_mem⟩ := List.mem_flatMap.mp text_mem
    have member_clean := allClean_member_of_mem clean member_mem
    have type_clean := clean_specificType naming_clean member_clean.2
    rcases List.mem_cons.mp text_mem with rfl | text_mem
    · exact writesQuiet_start (by decide) (by simp [IsLine])
        (isLine_of_clean (clean_memberVariable type_clean member_clean.1))
    · split at text_mem
      · obtain rfl := List.mem_singleton.mp text_mem
        exact writesQuiet_append
          (by simp +decide [type_clean, member_clean.1, clean_familyMark]) (by decide)
      · simp at text_mem
  unfold properties
  split
  · exact writesQuiet_nil
  · exact ((writesQuiet_lines lines_quiet).newline_cons).append writesQuiet_newline

theorem writesBlocks_annotationProtocol {declaration : AnnotationDeclaration}
    (clean : AllClean declaration.words) :
    WritesBlocks width 1 (annotationProtocol context declaration) := by
  obtain ⟨type_clean, -, members_clean, -⟩ := (allClean_annotationDeclaration_iff _).mp clean
  have head := isPlainHead_protocol (clean_fullName naming_clean type_clean)
    (show AllClean [SupportLibrary.annotationProtocol] by simp +decide) (by simp)
  have inside_quiet : WritesQuiet width 0
      ((if declaration.isRuntime then properties context declaration.members else [])
        ++ [.newline]) := by
    split
    · exact (writesQuiet_properties naming_clean members_clean).append writesQuiet_newline
    · exact writesQuiet_newline
  simpa [annotationProtocol, blockEnd] using writesBlocks_plain head inside_quiet

theorem writesQuiet_defaultAccessors {members : List AnnotationMember}
    (clean : AllClean (members.flatMap AnnotationMember.words)) :
    WritesQuiet width 0 (defaultAccessors context members) := by
  have lines_quiet : ∀ text ∈ members.filterMap (defaultLine? context),
      WritesQuiet width 0 (line text) := by
    intro text text_mem
    obtain ⟨member, member_mem, default_eq⟩ := List.mem_filterMap.mp text_mem
    obtain ⟨default, -, rfl⟩ := Option.map_eq_some_iff.mp default_eq
    have member_clean := allClean_member_of_mem clean member_mem
    have type_clean := clean_specificType naming_clean member_clean.2
    exact writesQuiet_append (by simp +decide [type_clean, member_clean.1]) (by decide)
  unfold defaultAccessors
  split
  · exact writesQuiet_nil
  · exact (writesQuiet_lines lines_quiet).newline_cons

omit naming_clean in
theorem isPlainHead_annotationClass {name : String} (name_clean : Clean name) :
    IsPlainHead ("@interface " ++ name ++ " : " ++ SupportLibrary.rootObject ++ adopting [name]) := by
  have adopting_clean : Clean (adopting [name]) := clean_adopting (by simpa using name_clean)
  have last_eq : (adopting [name]).toList.getLast? = some '>' := by
    rw [adopting_of_ne_nil (List.cons_ne_nil name []), String.toList_append, List.getLast?_append]
    rfl
  have head := isPlainHead_interface '>'
    (show Clean (name ++ " : " ++ SupportLibrary.rootObject) by simp +decide [name_clean])
    adopting_clean last_eq (by decide)
  simpa only [String.append_assoc] using head

theorem writesQuiet_memberLines {members : List AnnotationMember}
    (clean : AllClean (members.flatMap AnnotationMember.words)) :
    WritesQuiet width 0 (indented (lines (members.map (memberLine context)))) := by
  apply WritesQuiet.indented
  apply writesQuiet_lines
  intro text text_mem
  obtain ⟨member, member_mem, rfl⟩ := List.mem_map.mp text_mem
  have member_clean := allClean_member_of_mem clean member_mem
  have type_clean := clean_variableType naming_clean member_clean.2
  exact writesQuiet_append
    (by simp +decide [type_clean, member_clean.1, clean_nameSeparator]) (by decide)

/-- The class of an annotation type with members has their variables between braces. -/
theorem writesBlocks_memberVariables {name : String} {members : List AnnotationMember}
    (name_clean : Clean name) (clean : AllClean (members.flatMap AnnotationMember.words)) :
    WritesBlocks width 1
      (.write ("@interface " ++ name ++ " : " ++ SupportLibrary.rootObject ++ adopting [name])
        :: (memberVariables context members ++ defaultAccessors context members ++ blockEnd)) := by
  have head := isPlainHead_annotationClass name_clean
  have accessors_quiet : WritesQuiet width 0 (defaultAccessors context members) :=
    writesQuiet_defaultAccessors naming_clean clean
  unfold memberVariables
  split
  · have block := writesBlocks_plain head (accessors_quiet.append writesQuiet_newline)
    simpa [line, blockEnd] using block
  · have private_quiet : WritesQuiet width 0 (line SupportLibrary.privateLine) :=
      writesQuiet_line_outermost (by simp [IsLine, SupportLibrary.privateLine])
        ⟨⟨by decide, by decide, by decide⟩, by decide⟩
    have constructor_quiet : WritesQuiet width 0
        (line (context.naming.annotationConstructor members ++ ";")) :=
      writesQuiet_append (clean_annotationConstructor naming_clean clean) (by decide)
    have single : IsLine
        ("@interface " ++ name ++ " : " ++ SupportLibrary.rootObject ++ adopting [name]
          ++ " \x7b") := by
      rw [isLine_append]
      exact ⟨head.single, by simp [IsLine]⟩
    have opens : isOpener
        ("@interface " ++ name ++ " : " ++ SupportLibrary.rootObject ++ adopting [name]
          ++ " \x7b") = true := by
      simp only [String.append_assoc]
      exact isOpener_interface _
    have block := writesBlocks_braced single opens
      (private_quiet.append (writesQuiet_memberLines naming_clean clean))
      ((constructor_quiet.newline_cons.append accessors_quiet).append writesQuiet_newline)
    -- The brace is written after the head, but on the same line.
    rw [List.append_assoc, List.append_assoc, List.append_assoc] at block
    simpa [closingBrace, lines, blockEnd] using block.of_joined

theorem writesBlocks_annotationClass {declaration : AnnotationDeclaration}
    (clean : AllClean declaration.words) :
    WritesBlocks width 1 (annotationClass context declaration) := by
  obtain ⟨type_clean, -, members_clean, fields_clean, -⟩ :=
    (allClean_annotationDeclaration_iff _).mp clean
  have name_clean := clean_fullName naming_clean type_clean
  have after_quiet : WritesQuiet width 0
      (staticInit context declaration.type declaration.methods
        ++ staticVariables context declaration.type declaration.fields) :=
    (writesQuiet_staticInit naming_clean type_clean declaration.methods).append
      (writesQuiet_staticVariables naming_clean type_clean fields_clean)
  unfold annotationClass
  split
  · have block := (writesBlocks_memberVariables naming_clean name_clean members_clean).append_quiet
      after_quiet
    simpa using block.quiet_append writesQuiet_newline
  · have inside_quiet : WritesQuiet width 0 [.newline] := writesQuiet_newline
    have head := isPlainHead_annotationClass name_clean
    have block := (writesBlocks_plain head inside_quiet).append_quiet after_quiet
    simpa [line, blockEnd] using block.quiet_append writesQuiet_newline

theorem writesBlocks_annotationBody {declaration : AnnotationDeclaration}
    (clean : AllClean declaration.words)
    (undocumented : (Declaration.ofAnnotationType declaration).docs = []) :
    WritesBlocks width 1 (annotationBody context declaration) := by
  rw [Declaration.docs_eq_nil_iff] at undocumented
  have doc_quiet : WritesQuiet width 0 (docLines declaration.doc) :=
    writesQuiet_docLines undocumented.1
  have classes : WritesBlocks width 0
      (if needsClass declaration then annotationClass context declaration else []) := by
    split
    · exact (writesBlocks_annotationClass naming_clean clean).of_le (Nat.zero_le 1)
    · exact writesQuiet_nil.blocks
  have protocol : WritesBlocks width 1 (annotationProtocol context declaration) :=
    writesBlocks_annotationProtocol naming_clean clean
  have type_clean := ((allClean_annotationDeclaration_iff _).mp clean).1
  have alias_quiet : WritesQuiet width 0
      (prefixAlias context declaration.type declaration.isTopLevel) :=
    writesQuiet_prefixAlias naming_clean type_clean declaration.isTopLevel
  simpa [annotationBody] using
    ((protocol.append classes).append_quiet alias_quiet).quiet_append doc_quiet

/-! ## All forms -/

/-- A declaration without comments and faults writes at least one block. -/
theorem writesBlocks_declaration {declaration : Declaration} (clean : AllClean declaration.words)
    (undocumented : declaration.docs = []) (sound : (opening context declaration).fault = none) :
    WritesBlocks width 1 (declarationEmission context declaration).steps := by
  have filled := fragments_ne_nil_of_opening sound
  obtain ⟨type_clean, fields_clean, -⟩ := allClean_declaration clean
  have opening_quiet : WritesQuiet width 0 (opening context declaration).steps :=
    writesQuiet_opening naming_clean type_clean rfl fields_clean sound
  have body_blocks : WritesBlocks width 1 (body context declaration) := by
    cases declaration with
    | ofType declaration => exact writesBlocks_typeBody naming_clean clean undocumented filled
    | ofEnum declaration => exact writesBlocks_enumBody naming_clean clean undocumented filled
    | ofAnnotationType declaration => exact writesBlocks_annotationBody naming_clean clean undocumented
  rw [declarationEmission_of_sound sound]
  exact body_blocks.quiet_append opening_quiet

end

end HeaderForge.Header
