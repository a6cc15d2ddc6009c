import HeaderForge.Ascending
import HeaderForge.Naming.Types

/-!
# Imports and dependencies

A header depends on other types: those its own types extend or adopt, whose headers it includes, and those
it only mentions, which it declares as types that exist.
-/

namespace HeaderForge

/-- A type of another header. -/
structure Import where
  /-- The name of the type. -/
  typeName : String
  /-- The path of its header, without extension. -/
  file : String
  /-- Whether it is a protocol. -/
  isProtocol : Bool
deriving DecidableEq, Repr

namespace Import

/-- The order of imports: by type name, then by file, with protocols last. -/
def before (left right : Import) : Bool :=
  if left.typeName ≠ right.typeName then Ascending.textBefore left.typeName right.typeName
  else if left.file ≠ right.file then Ascending.textBefore left.file right.file
  else !left.isProtocol && right.isProtocol

/-- The statement that the type exists. -/
def forwardDeclaration (entry : Import) : String :=
  (if entry.isProtocol then "@protocol " else "@class ") ++ entry.typeName ++ ";"

/-- The statement that includes the type's header. -/
def includeStatement (entry : Import) : String := "#include \"" ++ entry.file ++ ".h\""

/-- The path of the header that declares a type: types declared inside others share theirs. -/
def fileOf (type : TypeRef) : String :=
  if type.package = "" then type.topLevelName
  else Text.replaceChar '.' '/' type.package ++ "/" ++ type.topLevelName

/-- The import of a declared type. -/
def ofDeclared (naming : Naming) (type : TypeRef) : Import :=
  ⟨naming.fullName type, fileOf type, type.isProtocol⟩

/-- The import of a class of the support library, whose header is named like the class. -/
def ofLibraryClass (className : String) : Import := ⟨className, className, false⟩

/-- The import a mention of a type needs. Primitive types, type variables and types with a counterpart
need none. -/
def ofReference (naming : Naming) (type : TypeRef) : Option Import :=
  match type with
  | .primitive _ _ _ => none
  | .unbounded _ _ => none
  | .bounded _ _ _ => none
  | .array _ _ element => some (ofLibraryClass (Naming.arrayClass element))
  | .declared _ _ _ =>
    if Foundation.isMapped type.qualifiedName then none else some (ofDeclared naming type)

/-- The import a type to extend or adopt needs. -/
def ofSuperType (naming : Naming) (type : TypeRef) : Option Import :=
  if Foundation.isMapped type.qualifiedName then none else some (ofDeclared naming type)

/-- The import of the class all enums extend. -/
def enumBase : Import := ⟨SupportLibrary.enumBase, SupportLibrary.enumBaseFile, false⟩

/-- The import of the protocol all annotation types adopt. -/
def annotationProtocol : Import :=
  ⟨SupportLibrary.annotationProtocol, SupportLibrary.annotationProtocolFile, true⟩

end Import

/-- What a header depends on, in order. -/
structure Dependencies where
  /-- The types that are declared to exist. -/
  forward : List Import
  /-- The types whose headers are included. -/
  superTypes : List Import
deriving DecidableEq, Repr

/-- Whether a header depends on nothing. -/
def Dependencies.isEmpty (dependencies : Dependencies) : Bool :=
  dependencies.forward.isEmpty && dependencies.superTypes.isEmpty

namespace Declaration

/-- The imports of the types a declaration extends or adopts. -/
def superTypeImports (naming : Naming) : Declaration → List Import
  | ofType declaration =>
    (declaration.superclass.toList ++ declaration.interfaces).filterMap
      (Import.ofSuperType naming)
  | ofEnum declaration =>
    Import.enumBase :: declaration.interfaces.filterMap (Import.ofSuperType naming)
  | ofAnnotationType _ => [Import.annotationProtocol]

/-- The types mentioned in the signature of a method. -/
def signatureTypes (signature : Signature) : List TypeRef :=
  signature.returnType :: signature.parameters.map Parameter.type

/-- The types a declaration mentions in its own members, fields and methods. -/
def mentionedTypes (declaration : Declaration) : List TypeRef :=
  (match declaration with
    | ofAnnotationType declaration => declaration.members.map AnnotationMember.type
    | _ => [])
    ++ declaration.fields.map Field.type
    ++ declaration.methods.flatMap fun method => signatureTypes method.signature

/-- The imports a declaration needs for the types it mentions. The class of an enum also mentions arrays
of objects. -/
def mentionedImports (naming : Naming) (declaration : Declaration) : List Import :=
  (match declaration with
    | ofEnum _ => [Import.ofLibraryClass SupportLibrary.objectArray]
    | _ => [])
    ++ declaration.mentionedTypes.filterMap (Import.ofReference naming)

end Declaration

/-- What the header of a unit depends on. A type whose header is included need not be declared to exist. -/
def Dependencies.collect (naming : Naming) (unit : SourceUnit) : Dependencies :=
  let superTypes :=
    Ascending.ofList Import.before (unit.declarations.flatMap (Declaration.superTypeImports naming))
  let mentioned :=
    Ascending.ofList Import.before (unit.declarations.flatMap (Declaration.mentionedImports naming))
  { forward := mentioned.filter fun entry =>
      !(superTypes.any fun superType => superType.typeName == entry.typeName)
    superTypes }

end HeaderForge
