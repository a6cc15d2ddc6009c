import HeaderForge.Model.SourceUnit
import HeaderForge.Vocabulary.Foundation
import HeaderForge.Vocabulary.SupportLibrary

/-!
# Names of types

How types of the source language are called in a header. A declared type is called by its package in
camel case, or by the short name configured for the package, followed by its own name, with underscores
between it and the types around it. Enums have an ending of their own, and types with a counterpart in
the target's library are called by the counterpart's name.
-/

namespace HeaderForge

/-- A short name for a package. -/
structure PackagePrefix where
  /-- The package. -/
  package : String
  /-- What stands for the package in names. -/
  short : String
deriving DecidableEq, Repr

/-- How names are made. -/
structure Naming where
  /-- The short names of packages; of several for one package, the last counts. -/
  prefixes : List PackagePrefix := []
deriving DecidableEq, Repr

namespace Naming

/-- The short name of a package, if it has one. -/
def shortName? (naming : Naming) (package : String) : Option String :=
  (naming.prefixes.reverse.find? fun entry => entry.package == package).map PackagePrefix.short

/-- Whether a package has a short name. -/
def hasShortName (naming : Naming) (package : String) : Bool := (naming.shortName? package).isSome

/-- What stands for a package in names. -/
def packageWord (naming : Naming) (package : String) : String :=
  (naming.shortName? package).getD (Text.camelCase package)

/-- The ending of the name of a type of the given sort. -/
def sortEnding : TypeSort → String
  | .enumType => SupportLibrary.enumEnding
  | _ => ""

/-- The class of arrays with elements of a type. -/
def arrayClass (element : TypeRef) : String :=
  (element.primitive?.bind Primitive.arrayClass?).getD SupportLibrary.objectArray

/-- The name of a declared type without a counterpart. -/
def declaredName (naming : Naming) (package name : String) (sort : TypeSort) : String :=
  naming.packageWord package ++ Text.replaceChar '.' '_' name ++ sortEnding sort

/-- The name of a type. -/
def fullName (naming : Naming) (type : TypeRef) : String :=
  match type with
  | .primitive _ _ type => type.targetName
  | .array _ _ element => arrayClass element
  | .unbounded _ _ => "id"
  | .bounded _ _ _ => "id"
  | .declared package name sort =>
    (Foundation.targetName? type.qualifiedName).getD (naming.declaredName package name sort)

/-- A pointer to objects of a class. -/
def pointer (className : String) : String := className ++ " *"

/-- A pointer to objects that adopt a protocol. -/
def adopter (protocolName : String) : String := "id<" ++ protocolName ++ ">"

/-- The type of variables that hold values of a type. -/
def variableType (naming : Naming) (type : TypeRef) : String :=
  match type with
  | .primitive _ _ type => type.targetName
  | .array _ _ _ => pointer (naming.fullName type)
  | .unbounded _ _ => "id"
  | .bounded _ _ _ => "id"
  | .declared _ _ _ =>
    if type.qualifiedName = Foundation.objectName then "id"
    else if type.isProtocol || Foundation.isProtocol type.qualifiedName then
      adopter (naming.fullName type)
    else pointer (naming.fullName type)

/-- The type of variables that hold values of a type, where a type variable stands for its bound. -/
def specificType (naming : Naming) : TypeRef → String
  | .bounded _ _ bound => naming.specificType bound
  | type => naming.variableType type

/-- The name a declared type would have if its package had no short name. -/
def unprefixedName (type : TypeRef) : String :=
  Text.camelCase type.qualifiedName ++ (type.sort?.map sortEnding).getD ""

/-- The name of an enum's class without the ending of enums. -/
def bareName (naming : Naming) (type : TypeRef) : String :=
  Text.dropEnding SupportLibrary.enumEnding (naming.fullName type)

/-- The name that guards a header: that of the main declaration, or else that of the file. -/
def mainName (naming : Naming) (unit : SourceUnit) : String :=
  match unit.mainDeclaration? with
  | some declaration => naming.fullName declaration.type
  | none => naming.packageWord unit.package ++ unit.stem

/-- The name of a field of an object. -/
def fieldName (var : Variable) : String := var.name ++ "_"

/-- What follows the type's name in the name of a static variable. -/
def staticName (var : Variable) : String :=
  if var.isEnumConstant then var.name else var.name ++ "_"

/-- The name of a constant that has no storage. -/
def constantName (naming : Naming) (declaring : TypeRef) (var : Variable) : String :=
  naming.fullName declaring ++ "_" ++ var.name

end Naming

/-- What separates a type from the name after it: nothing after a pointer, else a space. -/
def nameSeparator (variableType : String) : String :=
  if Text.endsWith variableType "*" then "" else " "

end HeaderForge
