import HeaderForge.Model.Member

/-!
# Declarations

The three forms of declaration a source file can hold: classes and interfaces, enums, and annotation types.
-/

namespace HeaderForge

/-- The declaration of a class or interface. -/
structure TypeDeclaration where
  /-- The type declared. -/
  type : TypeRef
  /-- The class extended. -/
  superclass : Option TypeRef := none
  /-- The interfaces implemented or extended. -/
  interfaces : List TypeRef := []
  /-- The modifiers. -/
  modifiers : Modifiers := {}
  /-- The annotations. -/
  annotations : List AnnotationUse := []
  /-- The comment above the declaration. -/
  doc : Option String := none
  /-- The fields. -/
  fields : List Field := []
  /-- The methods. -/
  methods : List Method := []
  /-- Is not declared inside another type. -/
  isTopLevel : Bool := true
deriving DecidableEq, Repr

/-- Whether the declaration is that of an interface. -/
def TypeDeclaration.isInterface (declaration : TypeDeclaration) : Bool :=
  declaration.type.sort? == some .interfaceType

namespace TypeDeclaration

/-- The declaration with one more interface. -/
def addInterface (declaration : TypeDeclaration) (interface : TypeRef) : TypeDeclaration :=
  { declaration with interfaces := declaration.interfaces ++ [interface] }

/-- The declaration with one more annotation. -/
def annotate (declaration : TypeDeclaration) (use : AnnotationUse) : TypeDeclaration :=
  { declaration with annotations := declaration.annotations ++ [use] }

/-- The declaration with one more field. -/
def addField (declaration : TypeDeclaration) (field : Field) : TypeDeclaration :=
  { declaration with fields := declaration.fields ++ [field] }

/-- The declaration with one more method. -/
def addMethod (declaration : TypeDeclaration) (method : Method) : TypeDeclaration :=
  { declaration with methods := declaration.methods ++ [method] }

end TypeDeclaration

/-- A constant of an enum. Its number is its place among the constants. -/
structure EnumConstant where
  /-- The name. -/
  name : String
  /-- The variable that holds it. -/
  storage : Variable
deriving DecidableEq, Repr

/-- The constant of an enum with the given name. -/
def EnumConstant.ofName (name : String) (enum : TypeRef) : EnumConstant :=
  ⟨name, { name, type := enum, modifiers := .constant, isEnumConstant := true }⟩

/-- The declaration of an enum. -/
structure EnumDeclaration where
  /-- The type declared. -/
  type : TypeRef
  /-- The interfaces implemented. -/
  interfaces : List TypeRef := []
  /-- The annotations. -/
  annotations : List AnnotationUse := []
  /-- The comment above the declaration. -/
  doc : Option String := none
  /-- The constants, in order. -/
  constants : List EnumConstant := []
  /-- The fields. -/
  fields : List Field := []
  /-- The methods. -/
  methods : List Method := []
  /-- Is not declared inside another type. -/
  isTopLevel : Bool := true
deriving DecidableEq, Repr

namespace EnumDeclaration

/-- The declaration with one more interface. -/
def addInterface (declaration : EnumDeclaration) (interface : TypeRef) : EnumDeclaration :=
  { declaration with interfaces := declaration.interfaces ++ [interface] }

/-- The declaration with one more annotation. -/
def annotate (declaration : EnumDeclaration) (use : AnnotationUse) : EnumDeclaration :=
  { declaration with annotations := declaration.annotations ++ [use] }

/-- The declaration with one more constant. -/
def addConstant (declaration : EnumDeclaration) (name : String) : EnumDeclaration :=
  { declaration with
    constants := declaration.constants ++ [EnumConstant.ofName name declaration.type] }

/-- The declaration with one more field. -/
def addField (declaration : EnumDeclaration) (field : Field) : EnumDeclaration :=
  { declaration with fields := declaration.fields ++ [field] }

/-- The declaration with one more method. -/
def addMethod (declaration : EnumDeclaration) (method : Method) : EnumDeclaration :=
  { declaration with methods := declaration.methods ++ [method] }

end EnumDeclaration

/-- How long annotations of a type are kept. -/
inductive Retention where
  /-- In the source only. -/
  | source
  /-- In the compiled class. -/
  | classFile
  /-- While the program runs. -/
  | runtime
deriving DecidableEq, Repr

/-- A member of an annotation type. -/
structure AnnotationMember where
  /-- The name. -/
  name : String
  /-- The type of its value. -/
  type : TypeRef
  /-- The source text of the default value. -/
  defaultText : Option String := none
deriving DecidableEq, Repr

/-- The declaration of an annotation type. -/
structure AnnotationDeclaration where
  /-- The type declared. -/
  type : TypeRef
  /-- How long its annotations are kept. -/
  retention : Retention := .classFile
  /-- The annotations it carries itself. -/
  annotations : List AnnotationUse := []
  /-- The comment above the declaration. -/
  doc : Option String := none
  /-- The members. -/
  members : List AnnotationMember := []
  /-- The fields. -/
  fields : List Field := []
  /-- The methods. -/
  methods : List Method := []
  /-- Is not declared inside another type. -/
  isTopLevel : Bool := true
deriving DecidableEq, Repr

namespace AnnotationDeclaration

/-- Whether annotations of the type are kept while the program runs. -/
def isRuntime (declaration : AnnotationDeclaration) : Bool := declaration.retention == .runtime

/-- The declaration with one more annotation. -/
def annotate (declaration : AnnotationDeclaration) (use : AnnotationUse) :
    AnnotationDeclaration :=
  { declaration with annotations := declaration.annotations ++ [use] }

/-- The declaration with one more member. -/
def addMember (declaration : AnnotationDeclaration) (member : AnnotationMember) :
    AnnotationDeclaration :=
  { declaration with members := declaration.members ++ [member] }

/-- The declaration with one more field. -/
def addField (declaration : AnnotationDeclaration) (field : Field) : AnnotationDeclaration :=
  { declaration with fields := declaration.fields ++ [field] }

/-- The declaration with one more method. -/
def addMethod (declaration : AnnotationDeclaration) (method : Method) : AnnotationDeclaration :=
  { declaration with methods := declaration.methods ++ [method] }

end AnnotationDeclaration

/-- A declaration. -/
inductive Declaration where
  /-- A class or interface. -/
  | ofType (declaration : TypeDeclaration)
  /-- An enum. -/
  | ofEnum (declaration : EnumDeclaration)
  /-- An annotation type. -/
  | ofAnnotationType (declaration : AnnotationDeclaration)
deriving DecidableEq, Repr

namespace Declaration

/-- The type declared. -/
def type : Declaration → TypeRef
  | ofType declaration => declaration.type
  | ofEnum declaration => declaration.type
  | ofAnnotationType declaration => declaration.type

/-- The fields. -/
def fields : Declaration → List Field
  | ofType declaration => declaration.fields
  | ofEnum declaration => declaration.fields
  | ofAnnotationType declaration => declaration.fields

/-- The methods. -/
def methods : Declaration → List Method
  | ofType declaration => declaration.methods
  | ofEnum declaration => declaration.methods
  | ofAnnotationType declaration => declaration.methods

/-- Whether the type is not declared inside another. -/
def isTopLevel : Declaration → Bool
  | ofType declaration => declaration.isTopLevel
  | ofEnum declaration => declaration.isTopLevel
  | ofAnnotationType declaration => declaration.isTopLevel

end Declaration

end HeaderForge
