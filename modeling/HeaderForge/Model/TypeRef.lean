import HeaderForge.Model.Primitive

/-!
# Type references

A reference to a type, resolved: it says what the type is, and carries its package and name. The names of
types declared inside others are joined by dots.
-/

namespace HeaderForge

/-- The kinds of declared types. -/
inductive TypeSort where
  /-- A class. -/
  | classType
  /-- An interface. -/
  | interfaceType
  /-- An enum. -/
  | enumType
  /-- An annotation type. -/
  | annotationType
deriving DecidableEq, Repr

/-- Whether types of the sort become protocols. -/
def TypeSort.isProtocol : TypeSort → Bool
  | .interfaceType => true
  | .annotationType => true
  | _ => false

/-- A resolved reference to a type. Every reference has a package and a name, whatever it refers to. -/
inductive TypeRef where
  /-- A primitive type. -/
  | primitive (package name : String) (type : Primitive)
  /-- A declared type. -/
  | declared (package name : String) (sort : TypeSort)
  /-- An array type. -/
  | array (package name : String) (element : TypeRef)
  /-- A type variable without a bound. -/
  | unbounded (package name : String)
  /-- A type variable with a bound. -/
  | bounded (package name : String) (bound : TypeRef)
deriving DecidableEq, Repr

namespace TypeRef

/-- The package of the type. -/
def package : TypeRef → String
  | primitive package _ _ => package
  | declared package _ _ => package
  | array package _ _ => package
  | unbounded package _ => package
  | bounded package _ _ => package

/-- The name of the type in its package. -/
def name : TypeRef → String
  | primitive _ name _ => name
  | declared _ name _ => name
  | array _ name _ => name
  | unbounded _ name => name
  | bounded _ name _ => name

/-- The primitive type referred to. -/
def primitive? : TypeRef → Option Primitive
  | primitive _ _ type => some type
  | _ => none

/-- The sort of the declared type referred to. -/
def sort? : TypeRef → Option TypeSort
  | declared _ _ sort => some sort
  | _ => none

/-- Whether the type is primitive. -/
def isPrimitive (type : TypeRef) : Bool := type.primitive?.isSome

/-- Whether the type is an array type. -/
def isArray : TypeRef → Bool
  | array .. => true
  | _ => false

/-- Whether the type becomes a protocol. -/
def isProtocol (type : TypeRef) : Bool := type.sort?.any TypeSort.isProtocol

/-- Whether the type is an enum. -/
def isEnum (type : TypeRef) : Bool := type.sort? == some .enumType

/-- The package and the name, joined by a dot. -/
def qualifiedName (type : TypeRef) : String :=
  if type.package = "" then type.name else type.package ++ "." ++ type.name

/-- The name of the type itself, without those of the types around it. -/
def simpleName (type : TypeRef) : String := Text.afterLast '.' type.name

/-- The name of the outermost type around the type. -/
def topLevelName (type : TypeRef) : String := Text.beforeFirst '.' type.name

/-- The reference to a primitive type. -/
def ofPrimitive (type : Primitive) : TypeRef := primitive "" type.sourceName type

/-- The reference to an array type. -/
def arrayOf (element : TypeRef) : TypeRef := array "" (element.name ++ "[]") element

/-- The reference to a type variable. -/
def variableNamed (name : String) : Option TypeRef → TypeRef
  | none => unbounded "" name
  | some bound => bounded "" name bound

end TypeRef

end HeaderForge
