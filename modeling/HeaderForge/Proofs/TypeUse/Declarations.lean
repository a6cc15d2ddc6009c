import HeaderForge.Proofs.TypeUse.Members

/-!
# Types used by declarations

Whole declarations with the types they use marked, each definition again the marked form of that of the
same name in `Header`. Erasing the marks gives back what a declaration writes, so the marked names
stand in the header itself.
-/

namespace HeaderForge.Header.Marked

open MarkedStep (eraseAll unmarked line lines spacedLines indented)

/-! ## Classes and interfaces -/

def adopting (protocols : List Piece) : List Piece :=
  if protocols.isEmpty then []
  else
    .plain " < " :: Piece.separated ", " (protocols.map fun piece => [piece]) ++ [.plain " >"]

/-- The class that a declared class extends. -/
def superPiece (context : Context) (declaration : TypeDeclaration) : Piece :=
  match declaration.superclass with
  | some superclass => context.naming.extendedPiece superclass
  | none => .typeName SupportLibrary.rootObject

def protocolHead (context : Context) (declaration : TypeDeclaration) : List MarkedStep :=
  let adopted := declaration.interfaces.map context.naming.extendedPiece
  let head :=
    .plain ("@protocol " ++ context.naming.fullName declaration.type)
      :: adopting (adopted ++ rootProtocols.map .typeName)
  if declaration.interfaces.isEmpty then line head else [.write head]

def classHead (context : Context) (declaration : TypeDeclaration) : List MarkedStep :=
  let adopted := declaration.interfaces.map context.naming.extendedPiece
  let head :=
    .plain ("@interface " ++ context.naming.fullName declaration.type ++ " : ")
      :: superPiece context declaration :: adopting adopted ++ [.plain " \x7b"]
  line head ++ instanceVariables context declaration.fields ++ unmarked (Page.line "\x7d")

def typeHead (context : Context) (declaration : TypeDeclaration) : List MarkedStep :=
  if declaration.isInterface then protocolHead context declaration
  else classHead context declaration

def companionClass (context : Context) (declaration : TypeDeclaration) : List MarkedStep :=
  if haveInitializer declaration.methods then
    .plain .newline ::
      line [.plain ("@interface " ++ context.naming.fullName declaration.type ++ " : "),
        .typeName SupportLibrary.rootObject]
      ++ unmarked blockEnd
  else
    []

def typeStatics (context : Context) (declaration : TypeDeclaration) : List MarkedStep :=
  let init := unmarked (staticInit context declaration.type declaration.methods)
  let storage := staticVariables context declaration.type declaration.fields
  if declaration.isInterface then
    companionClass context declaration ++ init ++ storage
  else
    init ++ fieldSetters context declaration.type declaration.fields ++ storage

def nativeLine (context : Context) (method : Method) : List Piece :=
  methodDeclaration context.naming method.signature ++ [.plain ";"]

def nativeBlock (context : Context) (declaration : TypeDeclaration) : List MarkedStep :=
  match externalNatives declaration.methods with
  | [] => []
  | methods =>
    unmarked (.newline ::
      Page.line ("@interface " ++ context.naming.fullName declaration.type ++ " ("
        ++ SupportLibrary.nativeCategory ++ ")"))
      ++ lines (methods.map (nativeLine context)) ++ unmarked (Page.line endLine)

def typeBody (context : Context) (declaration : TypeDeclaration) : List MarkedStep :=
  unmarked (docLines declaration.doc
      ++ deprecatedLine context (isDeprecated declaration.annotations))
    ++ typeHead context declaration
    ++ (methodsSteps context declaration.methods ++ unmarked blockEnd
      ++ typeStatics context declaration
      ++ unmarked (boxedSteps context declaration.type
          ++ prefixAlias context declaration.type declaration.isTopLevel)
      ++ nativeBlock context declaration)

@[simp] theorem textOf_adopting (protocols : List Piece) :
    Piece.textOf (adopting protocols) = Header.adopting (protocols.map Piece.text) := by
  unfold adopting Header.adopting
  cases protocols with
  | nil => rfl
  | cons first rest => simp [Function.comp_def, String.append_assoc]

@[simp] theorem namesOf_adopting (protocols : List Piece) :
    Piece.namesOf (adopting protocols) = Piece.namesOf protocols := by
  unfold adopting
  cases protocols with
  | nil => rfl
  | cons first rest =>
      simp only [List.isEmpty_cons, Bool.false_eq_true, if_false, List.cons_append,
        Piece.namesOf_plain_cons, Piece.namesOf_append, Piece.namesOf_separated,
        Piece.namesOf_nil, List.append_nil]
      exact Piece.flatMap_namesOf_singletons (first :: rest)

@[simp] theorem text_superPiece (context : Context) (declaration : TypeDeclaration) :
    (superPiece context declaration).text = superName context declaration := by
  unfold superPiece superName
  cases declaration.superclass with
  | none => rfl
  | some superclass => exact context.naming.text_extendedPiece superclass

@[simp] theorem eraseAll_protocolHead (context : Context) (declaration : TypeDeclaration) :
    eraseAll (protocolHead context declaration) = Header.protocolHead context declaration := by
  unfold protocolHead Header.protocolHead
  split <;> simp [Function.comp_def]

theorem eraseAll_classHead (context : Context) {declaration : TypeDeclaration}
    (filled : ∀ field ∈ declaration.fields, field.fragments ≠ []) :
    eraseAll (classHead context declaration) = (Header.classHead context declaration).steps := by
  have variables_sound :=
    instanceVariables_fault_of_filled context declaration.type filled
  simp [classHead, Header.classHead, Emission.andThen, variables_sound, Function.comp_def,
    instanceVariables_steps context declaration.type filled, String.append_assoc]

theorem eraseAll_typeHead (context : Context) {declaration : TypeDeclaration}
    (filled : ∀ field ∈ declaration.fields, field.fragments ≠ []) :
    eraseAll (typeHead context declaration) = (Header.typeHead context declaration).steps := by
  unfold typeHead Header.typeHead
  split
  · exact eraseAll_protocolHead context declaration
  · exact eraseAll_classHead context filled

@[simp] theorem eraseAll_companionClass (context : Context) (declaration : TypeDeclaration) :
    eraseAll (companionClass context declaration) = Header.companionClass context declaration := by
  unfold companionClass Header.companionClass
  split <;> simp

@[simp] theorem eraseAll_typeStatics (context : Context) (declaration : TypeDeclaration) :
    eraseAll (typeStatics context declaration) = Header.typeStatics context declaration := by
  unfold typeStatics Header.typeStatics
  split <;> simp

@[simp] theorem textOf_nativeLine (context : Context) (method : Method) :
    Piece.textOf (nativeLine context method) = Header.nativeLine context method := by
  simp [nativeLine, Header.nativeLine]

@[simp] theorem eraseAll_nativeBlock (context : Context) (declaration : TypeDeclaration) :
    eraseAll (nativeBlock context declaration) = Header.nativeBlock context declaration := by
  unfold nativeBlock Header.nativeBlock
  cases externalNatives declaration.methods with
  | nil => rfl
  | cons first rest => simp [Function.comp_def]

theorem eraseAll_typeBody (context : Context) {declaration : TypeDeclaration}
    (filled : ∀ field ∈ declaration.fields, field.fragments ≠ []) :
    eraseAll (typeBody context declaration) = Header.typeBody context declaration := by
  simp [typeBody, Header.typeBody, eraseAll_typeHead context filled]

/-! ## Enums -/

def enumProtocols (context : Context) (declaration : EnumDeclaration) : List Piece :=
  .typeName SupportLibrary.copyingProtocol ::
    (declaration.interfaces.filter fun type =>
      type.simpleName ≠ SupportLibrary.copyingInterface).map context.naming.extendedPiece

def enumHead (context : Context) (declaration : EnumDeclaration) : List MarkedStep :=
  let head :=
    .plain ("@interface " ++ context.naming.fullName declaration.type ++ " : ")
      :: .typeName SupportLibrary.enumBase :: adopting (enumProtocols context declaration)
      ++ [.plain " \x7b"]
  line head ++ instanceVariables context declaration.fields ++ unmarked (Page.line "\x7d")

def enumMethods (className : String) : List (List Piece) :=
  [[.plain "+ (", .typeName SupportLibrary.objectArray, .plain " *)values;"],
   [.plain "+ (", .typeName className, .plain " *)valueOfWithNSString:(", .typeName "NSString",
    .plain " *)name;"],
   [.plain "- (id)copyWithZone:(", .typeName "NSZone", .plain " *)zone;"]]

def valuesArray (context : Context) (declaration : EnumDeclaration) : List MarkedStep :=
  let name := context.naming.fullName declaration.type
  let size :=
    if declaration.constants.isEmpty then "" else toString declaration.constants.length
  .plain .newline ::
    line [.plain (SupportLibrary.exportMark ++ " "), .typeName name,
      .plain (" *" ++ name ++ "_values[" ++ size ++ "];")]

def constantAccess (context : Context) (declaration : EnumDeclaration) (constant : EnumConstant) :
    List MarkedStep :=
  let name := context.naming.fullName declaration.type
  let var := Naming.staticName constant.storage
  .plain .newline ::
    lines
      [[.plain ("#define " ++ name ++ "_" ++ var ++ " " ++ name ++ "_values["
          ++ enumeratorName context declaration constant ++ "]")],
       macroCall SupportLibrary.staticGetter name var (.pointer name)]

def enumBody (context : Context) (declaration : EnumDeclaration) : List MarkedStep :=
  unmarked (enumeration context declaration ++ docLines declaration.doc
      ++ deprecatedLine context (isDeprecated declaration.annotations))
    ++ enumHead context declaration
    ++ (lines (enumMethods (context.naming.fullName declaration.type))
      ++ methodsSteps context declaration.methods
      ++ unmarked (Page.line endLine ++ staticInit context declaration.type declaration.methods)
      ++ valuesArray context declaration
      ++ declaration.constants.flatMap (constantAccess context declaration)
      ++ staticVariables context declaration.type declaration.fields
      ++ fieldSetters context declaration.type declaration.fields
      ++ unmarked (prefixAlias context declaration.type declaration.isTopLevel))

theorem map_enumProtocols (context : Context) (declaration : EnumDeclaration) :
    (enumProtocols context declaration).map Piece.text =
      Header.enumProtocols context declaration := by
  simp [enumProtocols, Header.enumProtocols, Function.comp_def]

theorem eraseAll_enumHead (context : Context) {declaration : EnumDeclaration}
    (filled : ∀ field ∈ declaration.fields, field.fragments ≠ []) :
    eraseAll (enumHead context declaration) = (Header.enumHead context declaration).steps := by
  have variables_sound :=
    instanceVariables_fault_of_filled context declaration.type filled
  simp [enumHead, Header.enumHead, Emission.andThen, variables_sound, map_enumProtocols,
    instanceVariables_steps context declaration.type filled, String.append_assoc]

theorem map_enumMethods (className : String) :
    (enumMethods className).map Piece.textOf = Header.enumMethods className := by
  simp [enumMethods, Header.enumMethods, String.append_assoc]

@[simp] theorem eraseAll_valuesArray (context : Context) (declaration : EnumDeclaration) :
    eraseAll (valuesArray context declaration) = Header.valuesArray context declaration := by
  simp [valuesArray, Header.valuesArray, String.append_assoc]

@[simp] theorem eraseAll_constantAccess (context : Context) (declaration : EnumDeclaration)
    (constant : EnumConstant) :
    eraseAll (constantAccess context declaration constant) =
      Header.constantAccess context declaration constant := by
  simp [constantAccess, Header.constantAccess, Mention.pieces]

theorem eraseAll_enumBody (context : Context) {declaration : EnumDeclaration}
    (filled : ∀ field ∈ declaration.fields, field.fragments ≠ []) :
    eraseAll (enumBody context declaration) = Header.enumBody context declaration := by
  simp [enumBody, Header.enumBody, eraseAll_enumHead context filled, map_enumMethods,
    MarkedStep.eraseAll_flatMap]

/-! ## Annotation types -/

def memberVariable (type : Mention) (member : AnnotationMember) : List Piece :=
  type.pieces ++ [.plain (nameSeparator (Piece.textOf type.pieces) ++ member.name ++ ";")]

def propertyLines (context : Context) (member : AnnotationMember) : List (List Piece) :=
  let type := context.naming.mention member.type.resolved
  (.plain "@property (readonly) " :: memberVariable type member) ::
    if MethodFamily.needsOverride member.name then
      [.plain "- (" :: type.pieces ++ [.plain (")" ++ member.name ++ familyMark member.name ++ ";")]]
    else
      []

def properties (context : Context) (members : List AnnotationMember) : List MarkedStep :=
  if members.isEmpty then []
  else
    .plain .newline :: lines (members.flatMap (propertyLines context)) ++ [.plain .newline]

def memberLine (context : Context) (member : AnnotationMember) : List Piece :=
  memberVariable (context.naming.mention member.type) member

def annotationConstructor (naming : Naming) (members : List AnnotationMember) : List Piece :=
  .plain Naming.constructorStart
    :: naming.slotPieces (Naming.typedMemberSlots (Naming.sortedMembers members))

def memberVariables (context : Context) (members : List AnnotationMember) : List MarkedStep :=
  if members.isEmpty then [.plain .newline]
  else
    unmarked (Page.lines [" \x7b", SupportLibrary.privateLine])
      ++ indented (lines (members.map (memberLine context)))
      ++ unmarked (Page.line "\x7d")
      ++ .plain .newline :: line (annotationConstructor context.naming members ++ [.plain ";"])

def defaultLine? (context : Context) (member : AnnotationMember) : Option (List Piece) :=
  member.defaultText.map fun _ =>
    .plain "+ (" :: (context.naming.mention member.type.resolved).pieces
      ++ [.plain (")" ++ member.name ++ "Default;")]

def defaultAccessors (context : Context) (members : List AnnotationMember) : List MarkedStep :=
  spacedLines (members.filterMap (defaultLine? context))

def annotationProtocol (context : Context) (declaration : AnnotationDeclaration) :
    List MarkedStep :=
  line (.plain ("@protocol " ++ context.naming.fullName declaration.type)
      :: adopting [.typeName SupportLibrary.annotationProtocol])
    ++ (if declaration.isRuntime then properties context declaration.members else [])
    ++ unmarked blockEnd

def annotationClass (context : Context) (declaration : AnnotationDeclaration) :
    List MarkedStep :=
  let name := context.naming.fullName declaration.type
  let body :=
    if declaration.isRuntime then
      memberVariables context declaration.members ++ defaultAccessors context declaration.members
    else
      [.plain .newline]
  [.plain .newline,
   .write (.plain ("@interface " ++ name ++ " : ") :: .typeName SupportLibrary.rootObject
    :: adopting [.typeName name])]
    ++ body ++ unmarked (blockEnd ++ staticInit context declaration.type declaration.methods)
    ++ staticVariables context declaration.type declaration.fields

def annotationBody (context : Context) (declaration : AnnotationDeclaration) :
    List MarkedStep :=
  unmarked (docLines declaration.doc) ++ annotationProtocol context declaration
    ++ (if needsClass declaration then annotationClass context declaration else [])
    ++ unmarked (prefixAlias context declaration.type declaration.isTopLevel)

@[simp] theorem textOf_memberVariable (type : Mention) (member : AnnotationMember) :
    Piece.textOf (memberVariable type member) =
      Header.memberVariable (Piece.textOf type.pieces) member := by
  simp [memberVariable, Header.memberVariable, String.append_assoc]

theorem map_propertyLines (context : Context) (member : AnnotationMember) :
    (propertyLines context member).map Piece.textOf = Header.propertyLines context member := by
  unfold propertyLines Header.propertyLines
  rw [context.naming.specificType_eq_resolved]
  split <;> simp [String.append_assoc]

@[simp] theorem eraseAll_properties (context : Context) (members : List AnnotationMember) :
    eraseAll (properties context members) = Header.properties context members := by
  unfold properties Header.properties
  split
  · rfl
  · simp [List.map_flatMap, map_propertyLines]

@[simp] theorem textOf_memberLine (context : Context) (member : AnnotationMember) :
    Piece.textOf (memberLine context member) = Header.memberLine context member := by
  simp [memberLine, Header.memberLine]

@[simp] theorem textOf_annotationConstructor (naming : Naming)
    (members : List AnnotationMember) :
    Piece.textOf (annotationConstructor naming members) =
      naming.annotationConstructor members := by
  simp [annotationConstructor, Naming.annotationConstructor]

@[simp] theorem eraseAll_memberVariables (context : Context)
    (members : List AnnotationMember) :
    eraseAll (memberVariables context members) = Header.memberVariables context members := by
  unfold memberVariables Header.memberVariables
  split
  · rfl
  · simp [Function.comp_def]

theorem map_defaultLine? (context : Context) (member : AnnotationMember) :
    (defaultLine? context member).map Piece.textOf = Header.defaultLine? context member := by
  unfold defaultLine? Header.defaultLine?
  rw [context.naming.specificType_eq_resolved]
  cases member.defaultText with
  | none => rfl
  | some text => simp [String.append_assoc]

@[simp] theorem eraseAll_defaultAccessors (context : Context)
    (members : List AnnotationMember) :
    eraseAll (defaultAccessors context members) = Header.defaultAccessors context members := by
  have accessors_eq : (members.filterMap (defaultLine? context)).map Piece.textOf =
      members.filterMap (Header.defaultLine? context) := by
    rw [List.map_filterMap]
    simp only [map_defaultLine?]
  rw [defaultAccessors, MarkedStep.eraseAll_spacedLines, accessors_eq]
  rfl

@[simp] theorem eraseAll_annotationProtocol (context : Context)
    (declaration : AnnotationDeclaration) :
    eraseAll (annotationProtocol context declaration) =
      Header.annotationProtocol context declaration := by
  unfold annotationProtocol Header.annotationProtocol
  split <;> simp

@[simp] theorem eraseAll_annotationClass (context : Context)
    (declaration : AnnotationDeclaration) :
    eraseAll (annotationClass context declaration) =
      Header.annotationClass context declaration := by
  unfold annotationClass Header.annotationClass
  split <;> simp [String.append_assoc]

theorem eraseAll_annotationBody (context : Context) (declaration : AnnotationDeclaration) :
    eraseAll (annotationBody context declaration) =
      Header.annotationBody context declaration := by
  unfold annotationBody Header.annotationBody
  split <;> simp

/-! ## Whole headers -/

def body (context : Context) : Declaration → List MarkedStep
  | .ofType declaration => typeBody context declaration
  | .ofEnum declaration => enumBody context declaration
  | .ofAnnotationType declaration => annotationBody context declaration

/-- The whole header of a unit. Only the bodies of declarations use types: the constants before them
have primitive types. -/
def unitSteps (context : Context) (unit : SourceUnit) : List MarkedStep :=
  let mainName := context.naming.mainName unit
  unmarked
      (Page.line (context.settings.bannerFor unit.sourceFile)
        ++ prologue context mainName (Dependencies.collect context.naming unit))
    ++ (unit.declarations.flatMap fun declaration =>
        unmarked (.newline :: (opening context declaration).steps) ++ body context declaration)
    ++ unmarked (epilogue context mainName)

theorem eraseAll_body (context : Context) {declaration : Declaration}
    (filled : ∀ field ∈ declaration.fields, field.fragments ≠ []) :
    eraseAll (body context declaration) = Header.body context declaration := by
  cases declaration with
  | ofType declaration => exact eraseAll_typeBody context filled
  | ofEnum declaration => exact eraseAll_enumBody context filled
  | ofAnnotationType declaration => exact eraseAll_annotationBody context declaration

end HeaderForge.Header.Marked
