import HeaderForge.Import
import HeaderForge.Proofs.TypeUse.Declarations

/-!
# What a declaration uses

The names that a declaration uses come from five places: the types it extends or adopts, the types it
resolves type variables in, the other types it mentions, its own name, and the base types that all
declarations of its form share.
-/

namespace HeaderForge

namespace Declaration

/-- The types that a declaration names as those it extends or adopts. -/
def writtenSuperTypes : Declaration → List TypeRef
  | ofType declaration =>
    (if declaration.isInterface then [] else declaration.superclass.toList)
      ++ declaration.interfaces
  | ofEnum declaration =>
    declaration.interfaces.filter fun type =>
      type.simpleName ≠ SupportLibrary.copyingInterface
  | ofAnnotationType _ => []

/-- The types that a declaration writes with their type variables resolved. -/
def resolvedTypes : Declaration → List TypeRef
  | ofType declaration =>
    if declaration.isInterface then []
    else (Header.instanceFields declaration.fields).map Field.type
  | ofEnum declaration => (Header.instanceFields declaration.fields).map Field.type
  | ofAnnotationType declaration =>
    if declaration.isRuntime then declaration.members.map AnnotationMember.type else []

/-- The base types that declarations of a form share. -/
def baseNames : Declaration → List String
  | ofType _ => [SupportLibrary.rootObject, SupportLibrary.sourceObjectProtocol]
  | ofEnum _ =>
    [SupportLibrary.enumBase, SupportLibrary.copyingProtocol, SupportLibrary.objectArray,
     "NSString", "NSZone"]
  | ofAnnotationType _ => [SupportLibrary.rootObject, SupportLibrary.annotationProtocol]

/-- The names that a declaration may use. -/
inductive Uses (naming : Naming) (declaration : Declaration) : String → Prop
  | superType {type : TypeRef} {name : String}
      (written : type ∈ declaration.writtenSuperTypes)
      (named : (naming.extendedPiece type).name? = some name) : Uses naming declaration name
  | resolved {type : TypeRef} {name : String} (written : type ∈ declaration.resolvedTypes)
      (named : name ∈ (naming.mention type.resolved).names) : Uses naming declaration name
  | mentioned {type : TypeRef} {name : String} (mentioned : type ∈ declaration.mentionedTypes)
      (named : name ∈ (naming.mention type).names) : Uses naming declaration name
  | own : Uses naming declaration (naming.fullName declaration.type)
  | base {name : String} (base_mem : name ∈ declaration.baseNames) : Uses naming declaration name

theorem field_mem_mentionedTypes {declaration : Declaration} {field : Field}
    (field_mem : field ∈ declaration.fields) : field.type ∈ declaration.mentionedTypes := by
  simp only [mentionedTypes, List.mem_append, List.mem_map]
  exact Or.inl (Or.inr ⟨field, field_mem, rfl⟩)

theorem signature_mem_mentionedTypes {declaration : Declaration} {method : Method}
    {type : TypeRef} (method_mem : method ∈ declaration.methods)
    (type_mem : type ∈ signatureTypes method.signature) : type ∈ declaration.mentionedTypes := by
  simp only [mentionedTypes, List.mem_append, List.mem_flatMap]
  exact Or.inr ⟨method, method_mem, type_mem⟩

theorem member_mem_mentionedTypes {declaration : AnnotationDeclaration}
    {member : AnnotationMember} (member_mem : member ∈ declaration.members) :
    member.type ∈ (ofAnnotationType declaration).mentionedTypes := by
  simp only [mentionedTypes, List.mem_append, List.mem_map]
  exact Or.inl (Or.inl ⟨member, member_mem, rfl⟩)

end Declaration

namespace Header.Marked

open MarkedStep (namesOf)

/-- The variables that fields declare have the types of the fields. -/
def SharesTypes (fields : List Field) : Prop :=
  ∀ field ∈ fields, ∀ var ∈ field.fragments, var.type = field.type

section

variable {context : Context} {name : String}

/-! ## Members of any declaration -/

theorem uses_of_methodsSteps {declaration : Declaration}
    (name_mem : name ∈ namesOf (methodsSteps context declaration.methods)) :
    declaration.Uses context.naming name := by
  obtain ⟨method, method_mem, type, type_mem, named⟩ := mem_namesOf_methodsSteps name_mem
  exact .mentioned (Declaration.signature_mem_mentionedTypes method_mem type_mem) named

theorem uses_of_staticVariables {declaration : Declaration}
    (shared : SharesTypes declaration.fields)
    (name_mem :
      name ∈ namesOf (staticVariables context declaration.type declaration.fields)) :
    declaration.Uses context.naming name := by
  obtain ⟨field, field_mem, var, var_mem, named⟩ := mem_namesOf_staticVariables name_mem
  rw [shared field field_mem var var_mem] at named
  exact .mentioned (Declaration.field_mem_mentionedTypes field_mem) named

theorem uses_of_fieldSetters {declaration : Declaration}
    (name_mem : name ∈ namesOf (fieldSetters context declaration.type declaration.fields)) :
    declaration.Uses context.naming name := by
  obtain ⟨field, field_mem, named⟩ := mem_namesOf_fieldSetters name_mem
  exact .mentioned (Declaration.field_mem_mentionedTypes field_mem) named

theorem mem_namesOf_extendedPieces_iff (naming : Naming) (types : List TypeRef) :
    name ∈ Piece.namesOf (types.map naming.extendedPiece) ↔
      ∃ type ∈ types, (naming.extendedPiece type).name? = some name := by
  simp [Piece.namesOf]

/-! ## Classes and interfaces -/

theorem namesOf_protocolHead (context : Context) (declaration : TypeDeclaration) :
    namesOf (protocolHead context declaration) =
      Piece.namesOf (declaration.interfaces.map context.naming.extendedPiece)
        ++ rootProtocols := by
  unfold protocolHead
  split <;> simp [rootProtocols]

theorem namesOf_classHead (context : Context) (declaration : TypeDeclaration) :
    namesOf (classHead context declaration) =
      (superPiece context declaration).name?.toList
        ++ Piece.namesOf (declaration.interfaces.map context.naming.extendedPiece)
        ++ namesOf (instanceVariables context declaration.fields) := by
  simp [classHead, Piece.namesOf_cons (superPiece context declaration)]

theorem superPiece_name?_eq_some {declaration : TypeDeclaration}
    (named : (superPiece context declaration).name? = some name) :
    name = SupportLibrary.rootObject ∨
      ∃ type ∈ declaration.superclass, (context.naming.extendedPiece type).name? = some name := by
  unfold superPiece at named
  cases superclass_eq : declaration.superclass with
  | none =>
      rw [superclass_eq] at named
      exact Or.inl (Option.some.inj named).symm
  | some superclass =>
      rw [superclass_eq] at named
      exact Or.inr ⟨superclass, rfl, named⟩

theorem uses_of_typeHead {declaration : TypeDeclaration}
    (filled : ∀ field ∈ declaration.fields, field.fragments ≠ [])
    (shared : SharesTypes declaration.fields)
    (name_mem : name ∈ namesOf (typeHead context declaration)) :
    (Declaration.ofType declaration).Uses context.naming name := by
  have interfaces_written : ∀ type ∈ declaration.interfaces,
      type ∈ (Declaration.ofType declaration).writtenSuperTypes :=
    fun type type_mem => List.mem_append_right _ type_mem
  unfold typeHead at name_mem
  split at name_mem
  · rw [namesOf_protocolHead, List.mem_append, mem_namesOf_extendedPieces_iff] at name_mem
    rcases name_mem with ⟨type, type_mem, named⟩ | base_mem
    · exact .superType (interfaces_written type type_mem) named
    · exact .base base_mem
  · rename_i isClass
    rw [namesOf_classHead, List.mem_append, List.mem_append, Option.mem_toList,
      mem_namesOf_extendedPieces_iff,
      mem_namesOf_instanceVariables_iff context filled shared] at name_mem
    rcases name_mem with (named | ⟨type, type_mem, named⟩) | ⟨field, field_mem, named⟩
    · rcases superPiece_name?_eq_some named with rfl | ⟨type, extended, named⟩
      · exact .base List.mem_cons_self
      · refine .superType ?_ named
        simp [Declaration.writtenSuperTypes, isClass, Option.mem_def.mp extended]
    · exact .superType (interfaces_written type type_mem) named
    · refine .resolved ?_ named
      simp only [Declaration.resolvedTypes, isClass]
      exact List.mem_map_of_mem field_mem

theorem uses_of_typeStatics {declaration : TypeDeclaration}
    (shared : SharesTypes declaration.fields)
    (name_mem : name ∈ namesOf (typeStatics context declaration)) :
    (Declaration.ofType declaration).Uses context.naming name := by
  unfold typeStatics at name_mem
  split at name_mem
  · simp only [MarkedStep.namesOf_append, MarkedStep.namesOf_unmarked, List.append_nil,
      List.mem_append] at name_mem
    rcases name_mem with companion_mem | storage_mem
    · have root : name = SupportLibrary.rootObject := by
        unfold companionClass at companion_mem
        split at companion_mem
        · simpa using companion_mem
        · cases companion_mem
      rw [root]
      exact .base List.mem_cons_self
    · exact @uses_of_staticVariables context name (.ofType declaration) shared storage_mem
  · simp only [MarkedStep.namesOf_append, MarkedStep.namesOf_unmarked, List.nil_append,
      List.mem_append] at name_mem
    rcases name_mem with setter_mem | storage_mem
    · exact @uses_of_fieldSetters context name (.ofType declaration) setter_mem
    · exact @uses_of_staticVariables context name (.ofType declaration) shared storage_mem

theorem uses_of_nativeBlock {declaration : TypeDeclaration}
    (name_mem : name ∈ namesOf (nativeBlock context declaration)) :
    (Declaration.ofType declaration).Uses context.naming name := by
  have native_mem : ∃ method ∈ externalNatives declaration.methods,
      name ∈ Piece.namesOf (nativeLine context method) := by
    unfold nativeBlock at name_mem
    cases natives_eq : externalNatives declaration.methods with
    | nil => simp [natives_eq] at name_mem
    | cons first rest => simpa [natives_eq, List.flatMap_map] using name_mem
  obtain ⟨method, method_mem, name_mem⟩ := native_mem
  have declared : name ∈ Piece.namesOf (methodDeclaration context.naming method.signature) := by
    simpa [nativeLine] using name_mem
  obtain ⟨type, type_mem, named⟩ := mem_namesOf_methodDeclaration declared
  have method_declared : method ∈ (Declaration.ofType declaration).methods :=
    (List.mem_filter.mp method_mem).1
  exact .mentioned (Declaration.signature_mem_mentionedTypes method_declared type_mem) named

theorem uses_of_typeBody {declaration : TypeDeclaration}
    (filled : ∀ field ∈ declaration.fields, field.fragments ≠ [])
    (shared : SharesTypes declaration.fields)
    (name_mem : name ∈ namesOf (typeBody context declaration)) :
    (Declaration.ofType declaration).Uses context.naming name := by
  simp only [typeBody, MarkedStep.namesOf_append, MarkedStep.namesOf_unmarked, List.nil_append,
    List.append_nil, List.mem_append] at name_mem
  rcases name_mem with head_mem | (method_mem | statics_mem) | native_mem
  · exact uses_of_typeHead filled shared head_mem
  · exact @uses_of_methodsSteps context name (.ofType declaration) method_mem
  · exact uses_of_typeStatics shared statics_mem
  · exact uses_of_nativeBlock native_mem

/-! ## Enums -/

theorem namesOf_enumHead (context : Context) (declaration : EnumDeclaration) :
    namesOf (enumHead context declaration) =
      [SupportLibrary.enumBase, SupportLibrary.copyingProtocol]
        ++ Piece.namesOf ((Declaration.ofEnum declaration).writtenSuperTypes.map
            context.naming.extendedPiece)
        ++ namesOf (instanceVariables context declaration.fields) := by
  simp [enumHead, enumProtocols, Declaration.writtenSuperTypes]

theorem uses_of_enumHead {declaration : EnumDeclaration}
    (filled : ∀ field ∈ declaration.fields, field.fragments ≠ [])
    (shared : SharesTypes declaration.fields)
    (name_mem : name ∈ namesOf (enumHead context declaration)) :
    (Declaration.ofEnum declaration).Uses context.naming name := by
  rw [namesOf_enumHead, List.mem_append, List.mem_append, mem_namesOf_extendedPieces_iff,
    mem_namesOf_instanceVariables_iff context filled shared] at name_mem
  rcases name_mem with (base_mem | ⟨type, type_mem, named⟩) | ⟨field, field_mem, named⟩
  · exact .base (List.mem_append_left _ base_mem)
  · exact .superType type_mem named
  · exact .resolved (List.mem_map_of_mem field_mem) named

theorem namesOf_enumMethods (className : String) :
    (enumMethods className).flatMap Piece.namesOf =
      [SupportLibrary.objectArray, className, "NSString", "NSZone"] := rfl

theorem namesOf_valuesArray (context : Context) (declaration : EnumDeclaration) :
    namesOf (valuesArray context declaration) = [context.naming.fullName declaration.type] := by
  simp [valuesArray]

theorem namesOf_constantAccess (context : Context) (declaration : EnumDeclaration)
    (constant : EnumConstant) :
    namesOf (constantAccess context declaration constant) =
      [context.naming.fullName declaration.type] := by
  simp [constantAccess, Mention.names, Mention.pieces]

theorem uses_of_enumBody {declaration : EnumDeclaration}
    (filled : ∀ field ∈ declaration.fields, field.fragments ≠ [])
    (shared : SharesTypes declaration.fields)
    (name_mem : name ∈ namesOf (enumBody context declaration)) :
    (Declaration.ofEnum declaration).Uses context.naming name := by
  simp only [enumBody, MarkedStep.namesOf_append, MarkedStep.namesOf_unmarked, List.nil_append,
    List.append_nil, List.mem_append, MarkedStep.namesOf_lines, namesOf_enumMethods,
    namesOf_valuesArray, MarkedStep.namesOf_flatMap, namesOf_constantAccess, List.mem_flatMap,
    List.mem_cons, List.not_mem_nil, or_false] at name_mem
  rcases name_mem with head_mem | ((((given | method_mem) | rfl) | ⟨_, _, rfl⟩) | storage_mem) |
    setter_mem
  · exact uses_of_enumHead filled shared head_mem
  · rcases given with rfl | rfl | rfl | rfl
    · exact .base (by simp [Declaration.baseNames])
    · exact .own
    · exact .base (by simp [Declaration.baseNames])
    · exact .base (by simp [Declaration.baseNames])
  · exact @uses_of_methodsSteps context name (.ofEnum declaration) method_mem
  · exact .own
  · exact .own
  · exact @uses_of_staticVariables context name (.ofEnum declaration) shared storage_mem
  · exact @uses_of_fieldSetters context name (.ofEnum declaration) setter_mem

/-! ## Annotation types -/

theorem mem_namesOf_properties_iff (context : Context) (members : List AnnotationMember) :
    name ∈ namesOf (properties context members) ↔
      ∃ member ∈ members, name ∈ (context.naming.mention member.type.resolved).names := by
  have lines_names (member : AnnotationMember) :
      name ∈ (propertyLines context member).flatMap Piece.namesOf ↔
        name ∈ (context.naming.mention member.type.resolved).names := by
    unfold propertyLines
    split <;> simp [memberVariable]
  unfold properties
  cases members with
  | nil => simp
  | cons first rest =>
      simp only [List.isEmpty_cons, Bool.false_eq_true, if_false, MarkedStep.namesOf_append,
        List.cons_append, MarkedStep.namesOf_plain_cons, MarkedStep.namesOf_nil, List.append_nil,
        MarkedStep.namesOf_lines, List.flatMap_assoc]
      rw [List.mem_flatMap]
      exact exists_congr fun member => and_congr_right fun _ => lines_names member

theorem mem_namesOf_memberVariables {members : List AnnotationMember}
    (name_mem : name ∈ namesOf (memberVariables context members)) :
    ∃ member ∈ members, name ∈ (context.naming.mention member.type).names := by
  unfold memberVariables at name_mem
  split at name_mem
  · cases name_mem
  · simp only [MarkedStep.namesOf_append, MarkedStep.namesOf_unmarked, List.nil_append,
      MarkedStep.namesOf_indented, MarkedStep.namesOf_lines, List.flatMap_map, List.append_nil,
      MarkedStep.namesOf_plain_cons, MarkedStep.namesOf_line, List.mem_append] at name_mem
    rcases name_mem with variable_mem | parameter_mem
    · obtain ⟨member, member_mem, named⟩ := List.mem_flatMap.mp variable_mem
      exact ⟨member, member_mem, by simpa [memberLine, memberVariable] using named⟩
    · simp only [annotationConstructor, List.cons_append, Piece.namesOf_plain_cons,
        Piece.namesOf_append, Naming.namesOf_slotPieces, Piece.namesOf_nil, List.append_nil,
        List.mem_flatMap] at parameter_mem
      obtain ⟨slot, slot_mem, named⟩ := parameter_mem
      obtain ⟨member, member_mem, type_eq⟩ := Naming.mem_typedMemberSlots_type slot_mem
      rw [type_eq] at named
      exact ⟨member, List.mem_mergeSort.mp member_mem, named⟩

theorem mem_namesOf_defaultAccessors {members : List AnnotationMember}
    (name_mem : name ∈ namesOf (defaultAccessors context members)) :
    ∃ member ∈ members, name ∈ (context.naming.mention member.type.resolved).names := by
  rw [defaultAccessors, MarkedStep.namesOf_spacedLines, List.mem_flatMap] at name_mem
  obtain ⟨pieces, pieces_mem, name_mem⟩ := name_mem
  obtain ⟨member, member_mem, line_eq⟩ := List.mem_filterMap.mp pieces_mem
  obtain ⟨text, _, rfl⟩ := Option.map_eq_some_iff.mp line_eq
  exact ⟨member, member_mem, by simpa using name_mem⟩

theorem namesOf_annotationProtocol (context : Context) (declaration : AnnotationDeclaration) :
    namesOf (annotationProtocol context declaration) =
      SupportLibrary.annotationProtocol ::
        if declaration.isRuntime then namesOf (properties context declaration.members) else [] := by
  unfold annotationProtocol
  split <;> simp

theorem namesOf_annotationClass (context : Context) (declaration : AnnotationDeclaration) :
    namesOf (annotationClass context declaration) =
      SupportLibrary.rootObject :: context.naming.fullName declaration.type ::
        (if declaration.isRuntime then
            namesOf (memberVariables context declaration.members)
              ++ namesOf (defaultAccessors context declaration.members)
          else [])
        ++ namesOf (staticVariables context declaration.type declaration.fields) := by
  unfold annotationClass
  split <;> simp

theorem uses_of_annotationClass {declaration : AnnotationDeclaration}
    (shared : SharesTypes declaration.fields)
    (name_mem : name ∈ namesOf (annotationClass context declaration)) :
    (Declaration.ofAnnotationType declaration).Uses context.naming name := by
  rw [namesOf_annotationClass, List.mem_append, List.mem_cons, List.mem_cons] at name_mem
  rcases name_mem with (rfl | rfl | member_mem) | storage_mem
  · exact .base (by simp [Declaration.baseNames])
  · exact .own
  · split at member_mem
    · rename_i runtime
      rcases List.mem_append.mp member_mem with variable_mem | default_mem
      · obtain ⟨member, member_mem, named⟩ := mem_namesOf_memberVariables variable_mem
        exact .mentioned (Declaration.member_mem_mentionedTypes member_mem) named
      · obtain ⟨member, member_mem, named⟩ := mem_namesOf_defaultAccessors default_mem
        refine .resolved ?_ named
        simp only [Declaration.resolvedTypes, runtime, if_true]
        exact List.mem_map_of_mem member_mem
    · cases member_mem
  · exact @uses_of_staticVariables context name (.ofAnnotationType declaration) shared storage_mem

theorem uses_of_annotationBody {declaration : AnnotationDeclaration}
    (shared : SharesTypes declaration.fields)
    (name_mem : name ∈ namesOf (annotationBody context declaration)) :
    (Declaration.ofAnnotationType declaration).Uses context.naming name := by
  simp only [annotationBody, MarkedStep.namesOf_append, MarkedStep.namesOf_unmarked,
    List.nil_append, List.append_nil, List.mem_append, namesOf_annotationProtocol,
    List.mem_cons] at name_mem
  rcases name_mem with (rfl | property_mem) | class_mem
  · exact .base (by simp [Declaration.baseNames])
  · split at property_mem
    · rename_i runtime
      obtain ⟨member, member_mem, named⟩ :=
        (mem_namesOf_properties_iff context _).mp property_mem
      refine .resolved ?_ named
      simp only [Declaration.resolvedTypes, runtime, if_true]
      exact List.mem_map_of_mem member_mem
    · cases property_mem
  · split at class_mem
    · exact uses_of_annotationClass shared class_mem
    · cases class_mem

/-! ## Any declaration -/

/-- A declaration uses no other names than these. -/
theorem uses_of_body {declaration : Declaration}
    (filled : ∀ field ∈ declaration.fields, field.fragments ≠ [])
    (shared : SharesTypes declaration.fields)
    (name_mem : name ∈ namesOf (body context declaration)) :
    declaration.Uses context.naming name := by
  cases declaration with
  | ofType declaration => exact uses_of_typeBody filled shared name_mem
  | ofEnum declaration => exact uses_of_enumBody filled shared name_mem
  | ofAnnotationType declaration => exact uses_of_annotationBody shared name_mem

/-- The types a declaration extends or adopts are used. -/
theorem mem_namesOf_body_of_superType {declaration : Declaration} {type : TypeRef}
    (written : type ∈ declaration.writtenSuperTypes)
    (named : (context.naming.extendedPiece type).name? = some name) :
    name ∈ namesOf (body context declaration) := by
  cases declaration with
  | ofType declaration =>
      have head_mem : name ∈ namesOf (typeHead context declaration) := by
        unfold typeHead
        split
        · rename_i isInterface
          rw [namesOf_protocolHead]
          apply List.mem_append_left
          rw [mem_namesOf_extendedPieces_iff]
          exact ⟨type, by simpa [Declaration.writtenSuperTypes, isInterface] using written, named⟩
        · rename_i isClass
          rw [namesOf_classHead]
          apply List.mem_append_left
          rw [List.mem_append, mem_namesOf_extendedPieces_iff, Option.mem_toList]
          simp only [Declaration.writtenSuperTypes, isClass, List.mem_append] at written
          rcases written with extended | adopted
          · left
            have superclass_eq : declaration.superclass = some type := by simpa using extended
            simpa [superPiece, superclass_eq] using named
          · exact Or.inr ⟨type, adopted, named⟩
      simp [body, typeBody, head_mem]
  | ofEnum declaration =>
      have head_mem : name ∈ namesOf (enumHead context declaration) := by
        rw [namesOf_enumHead]
        apply List.mem_append_left
        apply List.mem_append_right
        exact (mem_namesOf_extendedPieces_iff _ _).mpr ⟨type, written, named⟩
      simp [body, enumBody, head_mem]
  | ofAnnotationType declaration => cases written

/-- The types a declaration resolves type variables in are used as resolved. -/
theorem mem_namesOf_body_of_resolved {declaration : Declaration} {type : TypeRef}
    (filled : ∀ field ∈ declaration.fields, field.fragments ≠ [])
    (shared : SharesTypes declaration.fields) (written : type ∈ declaration.resolvedTypes)
    (named : name ∈ (context.naming.mention type.resolved).names) :
    name ∈ namesOf (body context declaration) := by
  cases declaration with
  | ofType declaration =>
      have isClass : declaration.isInterface = false := by
        cases isInterface : declaration.isInterface with
        | false => rfl
        | true => simp [Declaration.resolvedTypes, isInterface] at written
      simp only [Declaration.resolvedTypes, isClass] at written
      obtain ⟨field, field_mem, rfl⟩ := List.mem_map.mp written
      have variable_mem : name ∈ namesOf (instanceVariables context declaration.fields) :=
        (mem_namesOf_instanceVariables_iff context filled shared name).mpr
          ⟨field, field_mem, named⟩
      simp [body, typeBody, typeHead, isClass, namesOf_classHead, variable_mem]
  | ofEnum declaration =>
      obtain ⟨field, field_mem, rfl⟩ := List.mem_map.mp written
      have variable_mem : name ∈ namesOf (instanceVariables context declaration.fields) :=
        (mem_namesOf_instanceVariables_iff context filled shared name).mpr
          ⟨field, field_mem, named⟩
      simp [body, enumBody, namesOf_enumHead, variable_mem]
  | ofAnnotationType declaration =>
      have runtime : declaration.isRuntime = true := by
        cases runtime : declaration.isRuntime with
        | false => simp [Declaration.resolvedTypes, runtime] at written
        | true => rfl
      simp only [Declaration.resolvedTypes, runtime, if_true] at written
      obtain ⟨member, member_mem, rfl⟩ := List.mem_map.mp written
      have property_mem : name ∈ namesOf (properties context declaration.members) :=
        (mem_namesOf_properties_iff context _).mpr ⟨member, member_mem, named⟩
      simp [body, annotationBody, namesOf_annotationProtocol, runtime, property_mem]

end

end Header.Marked

end HeaderForge
