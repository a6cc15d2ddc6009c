import HeaderForge.Proofs.Declarations

/-!
# Sources without comments

Without its comments a source declares the same types, fields and methods. So the names in its header,
the dependencies, and every part of the header that writes no comment stay the same.
-/

namespace HeaderForge

/-! ## Sources without comments -/

/-- The field without its comment. -/
def Field.withoutDoc (field : Field) : Field := { field with doc := none }

/-- The method without its comment. -/
def Method.withoutDoc (method : Method) : Method := { method with doc := none }

/-- The declaration without comments. -/
def TypeDeclaration.withoutDocs (declaration : TypeDeclaration) : TypeDeclaration :=
  { declaration with
    doc := none
    fields := declaration.fields.map Field.withoutDoc
    methods := declaration.methods.map Method.withoutDoc }

/-- The declaration without comments. -/
def EnumDeclaration.withoutDocs (declaration : EnumDeclaration) : EnumDeclaration :=
  { declaration with
    doc := none
    fields := declaration.fields.map Field.withoutDoc
    methods := declaration.methods.map Method.withoutDoc }

/-- The declaration without comments. -/
def AnnotationDeclaration.withoutDocs (declaration : AnnotationDeclaration) : AnnotationDeclaration :=
  { declaration with
    doc := none
    fields := declaration.fields.map Field.withoutDoc
    methods := declaration.methods.map Method.withoutDoc }

/-- The declaration without comments. -/
def Declaration.withoutDocs : Declaration → Declaration
  | ofType declaration => ofType declaration.withoutDocs
  | ofEnum declaration => ofEnum declaration.withoutDocs
  | ofAnnotationType declaration => ofAnnotationType declaration.withoutDocs

/-- The unit without comments. -/
def SourceUnit.withoutDocs (unit : SourceUnit) : SourceUnit :=
  { unit with declarations := unit.declarations.map Declaration.withoutDocs }

section

variable (declaration : Declaration)

@[simp] theorem Declaration.withoutDocs_type : declaration.withoutDocs.type = declaration.type := by
  cases declaration <;> rfl

@[simp] theorem Declaration.withoutDocs_isTopLevel :
    declaration.withoutDocs.isTopLevel = declaration.isTopLevel := by
  cases declaration <;> rfl

@[simp] theorem Declaration.withoutDocs_fields :
    declaration.withoutDocs.fields = declaration.fields.map Field.withoutDoc := by
  cases declaration <;> rfl

@[simp] theorem Declaration.withoutDocs_methods :
    declaration.withoutDocs.methods = declaration.methods.map Method.withoutDoc := by
  cases declaration <;> rfl

end

/-! ## What comments do not reach -/

@[simp] theorem fragmentsOf_withoutDoc (fields : List Field) :
    fragmentsOf (fields.map Field.withoutDoc) = fragmentsOf fields := by
  rw [fragmentsOf, List.flatMap_map]
  rfl

@[simp] theorem haveInitializer_withoutDoc (methods : List Method) :
    haveInitializer (methods.map Method.withoutDoc) = haveInitializer methods := by
  rw [haveInitializer, List.any_map]
  rfl

section

variable (naming : Naming)

theorem Declaration.superTypeImports_withoutDocs (declaration : Declaration) :
    declaration.withoutDocs.superTypeImports naming = declaration.superTypeImports naming := by
  cases declaration <;> rfl

theorem Declaration.mentionedImports_withoutDocs (declaration : Declaration) :
    declaration.withoutDocs.mentionedImports naming = declaration.mentionedImports naming := by
  have field_types : (declaration.fields.map Field.withoutDoc).map Field.type =
      declaration.fields.map Field.type := by
    rw [List.map_map]
    rfl
  have method_types : ((declaration.methods.map Method.withoutDoc).flatMap fun method =>
        signatureTypes method.signature) =
      declaration.methods.flatMap fun method => signatureTypes method.signature := by
    rw [List.flatMap_map]
    rfl
  simp only [mentionedImports, mentionedTypes, withoutDocs_fields, withoutDocs_methods, field_types,
    method_types]
  cases declaration <;> rfl

theorem collect_withoutDocs (unit : SourceUnit) :
    Dependencies.collect naming unit.withoutDocs = Dependencies.collect naming unit := by
  simp only [Dependencies.collect, SourceUnit.withoutDocs, List.flatMap_map,
    Declaration.superTypeImports_withoutDocs, Declaration.mentionedImports_withoutDocs]

theorem mainName_withoutDocs (unit : SourceUnit) :
    naming.mainName unit.withoutDocs = naming.mainName unit := by
  have main_eq : unit.withoutDocs.mainDeclaration? =
      unit.mainDeclaration?.map Declaration.withoutDocs := by
    rw [SourceUnit.mainDeclaration?, SourceUnit.withoutDocs, List.find?_map]
    congr 2
    funext declaration
    simp [SourceUnit.stem]
  unfold Naming.mainName
  rw [main_eq]
  cases unit.mainDeclaration? with
  | none => rfl
  | some declaration => simp

end

namespace Header

section

variable (context : Context) (declaring : TypeRef) (fields : List Field) (methods : List Method)

theorem opening_withoutDocs (declaration : Declaration) :
    opening context declaration.withoutDocs = opening context declaration := by
  have empty_eq : emptyField? context declaration.type (declaration.fields.map Field.withoutDoc) =
      emptyField? context declaration.type declaration.fields := by
    rw [emptyField?, List.any_map]
    rfl
  simp only [opening, checkFields, constantDefinitions, Declaration.withoutDocs_type,
    Declaration.withoutDocs_fields, empty_eq, fragmentsOf_withoutDoc]

theorem instanceFields_withoutDoc :
    instanceFields (fields.map Field.withoutDoc) = (instanceFields fields).map Field.withoutDoc := by
  rw [instanceFields, List.filter_map]
  rfl

@[simp] theorem storedStatics_withoutDoc :
    storedStatics (fields.map Field.withoutDoc) = storedStatics fields := by
  rw [storedStatics, List.filter_map, fragmentsOf_withoutDoc]
  rfl

@[simp] theorem staticVariables_withoutDoc :
    staticVariables context declaring (fields.map Field.withoutDoc) =
      staticVariables context declaring fields := by
  rw [staticVariables, storedStatics_withoutDoc, staticVariables]

@[simp] theorem fieldSetters_withoutDoc :
    fieldSetters context declaring (fields.map Field.withoutDoc) =
      fieldSetters context declaring fields := by
  have setters_eq : (fields.map Field.withoutDoc).flatMap (setterLines context declaring) =
      fields.flatMap (setterLines context declaring) := by
    rw [List.flatMap_map]
    rfl
  rw [fieldSetters, setters_eq, fieldSetters]

@[simp] theorem staticInit_withoutDoc :
    staticInit context declaring (methods.map Method.withoutDoc) =
      staticInit context declaring methods := by
  rw [staticInit, haveInitializer_withoutDoc, staticInit]

theorem typeStatics_withoutDocs (declaration : TypeDeclaration) :
    typeStatics context declaration.withoutDocs = typeStatics context declaration := by
  simp only [typeStatics, companionClass, TypeDeclaration.withoutDocs, staticInit_withoutDoc,
    staticVariables_withoutDoc, fieldSetters_withoutDoc, haveInitializer_withoutDoc]
  rfl

theorem nativeBlock_withoutDocs (declaration : TypeDeclaration) :
    nativeBlock context declaration.withoutDocs = nativeBlock context declaration := by
  have natives_eq : externalNatives declaration.withoutDocs.methods =
      (externalNatives declaration.methods).map Method.withoutDoc := by
    rw [externalNatives, TypeDeclaration.withoutDocs, List.filter_map]
    rfl
  rw [nativeBlock, natives_eq, nativeBlock]
  cases externalNatives declaration.methods with
  | nil => rfl
  | cons native natives =>
      simp only [List.map_cons, List.map_map]
      rfl

theorem annotationClass_withoutDocs (declaration : AnnotationDeclaration) :
    annotationClass context declaration.withoutDocs = annotationClass context declaration := by
  simp only [annotationClass, AnnotationDeclaration.withoutDocs, staticInit_withoutDoc,
    staticVariables_withoutDoc]
  rfl

end

end Header

end HeaderForge
