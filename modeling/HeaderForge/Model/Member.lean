import HeaderForge.Model.Constant
import HeaderForge.Model.Modifiers
import HeaderForge.Model.TypeRef

/-!
# Members

What declarations are made of: variables and fields, methods and their parameters, and the annotations
that declarations carry.
-/

namespace HeaderForge

/-- A variable: a fragment of a field, or an enum constant. -/
structure Variable where
  /-- The name. -/
  name : String
  /-- The type. -/
  type : TypeRef
  /-- The modifiers. -/
  modifiers : Modifiers := {}
  /-- The value, if it is known when the source is compiled. -/
  constant : Option Constant := none
  /-- Refers to an object without keeping it alive. -/
  isWeak : Bool := false
  /-- Is a constant of an enum. -/
  isEnumConstant : Bool := false
deriving DecidableEq, Repr

/-- The value and primitive type of a static final variable of primitive type with a value. Such a
variable has no storage: its value replaces every use of its name. -/
def Variable.primitiveConstant? (var : Variable) : Option (Primitive × Constant) :=
  if var.modifiers.isStatic && var.modifiers.isFinal then
    match var.type.primitive?, var.constant with
    | some type, some value => some (type, value)
    | _, _ => none
  else
    none

/-- Whether the variable is a static final variable of primitive type with a value. -/
def Variable.isPrimitiveConstant (var : Variable) : Bool := var.primitiveConstant?.isSome

/-- A field declaration: variables declared together, with one type and one set of modifiers. -/
structure Field where
  /-- The declared type. -/
  type : TypeRef
  /-- The declared modifiers. -/
  modifiers : Modifiers := {}
  /-- The comment above the declaration. -/
  doc : Option String := none
  /-- The variables declared. -/
  fragments : List Variable
deriving DecidableEq, Repr

/-- The variable a field declaration gives to a name by itself. -/
def Field.fragmentNamed (field : Field) (name : String) : Variable :=
  { name, type := field.type, modifiers := field.modifiers }

/-- The field declaration with one more variable. -/
def Field.addVariable (field : Field) (var : Variable) : Field :=
  { field with fragments := field.fragments ++ [var] }

/-- The field declaration with one more name. -/
def Field.addName (field : Field) (name : String) : Field :=
  field.addVariable (field.fragmentNamed name)

/-- All variables that fields declare, in order. -/
def fragmentsOf (fields : List Field) : List Variable := fields.flatMap Field.fragments

/-- The sorts of methods. -/
inductive MethodSort where
  /-- A method. -/
  | ordinary
  /-- A constructor. -/
  | constructor
  /-- The code that sets up the type before its first use. -/
  | staticInitializer
deriving DecidableEq, Repr

/-- A parameter of a method. -/
structure Parameter where
  /-- The name. -/
  name : String
  /-- The type. -/
  type : TypeRef
deriving DecidableEq, Repr

/-- What callers must know of a method. -/
structure Signature where
  /-- The name. -/
  name : String
  /-- The sort of method. -/
  sort : MethodSort := .ordinary
  /-- The modifiers. -/
  modifiers : Modifiers := {}
  /-- The parameters. -/
  parameters : List Parameter := []
  /-- The type of the result. -/
  returnType : TypeRef
  /-- Was added by the compiler. -/
  isSynthetic : Bool := false
  /-- Becomes a plain function that no header declares. -/
  isFunction : Bool := false
  /-- The selector of the target's own method it stands for. -/
  mappedSelector : Option String := none
deriving DecidableEq, Repr

/-- An annotation as a declaration carries it. -/
structure AnnotationUse where
  /-- The type's name as written, qualified or simple. -/
  typeName : String
deriving DecidableEq, Repr

namespace AnnotationUse

/-- Whether the name is written with its package. -/
def isQualified (use : AnnotationUse) : Bool := use.typeName.toList.contains '.'

/-- Whether the annotation marks what carries it as deprecated. -/
def isDeprecated (use : AnnotationUse) : Bool :=
  use.typeName ==
    (if use.isQualified then "java.lang.Deprecated" else "Deprecated")

end AnnotationUse

/-- Whether annotations mark what carries them as deprecated. -/
def isDeprecated (annotations : List AnnotationUse) : Bool := annotations.any AnnotationUse.isDeprecated

/-- A method declaration. -/
structure Method where
  /-- What callers must know. -/
  signature : Signature
  /-- The comment above the declaration. -/
  doc : Option String := none
  /-- The annotations. -/
  annotations : List AnnotationUse := []
  /-- Comes with its native body. -/
  hasNativeCode : Bool := false
deriving DecidableEq, Repr

namespace Method

/-- Whether the body of the method has to be written elsewhere. -/
def isExternalNative (method : Method) : Bool :=
  method.signature.modifiers.isNative && !method.hasNativeCode

/-- Whether the method sets up its type before the first use. -/
def isInitializer (method : Method) : Bool := method.signature.sort == .staticInitializer

end Method

/-- Whether one of the methods sets up the type before its first use. -/
def haveInitializer (methods : List Method) : Bool := methods.any Method.isInitializer

end HeaderForge
