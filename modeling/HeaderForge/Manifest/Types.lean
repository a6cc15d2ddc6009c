import HeaderForge.Manifest.Choice
import HeaderForge.Manifest.Record
import HeaderForge.Model.Modifiers
import HeaderForge.Model.TypeRef

/-!
# Types in manifests

The codecs of primitive types, type references and modifiers.
-/

namespace HeaderForge.Manifest

/-- Primitive types, by their source names. -/
def primitive : Codec Primitive :=
  names (Primitive.all.map fun type => (type.sourceName, type)) Primitive.sourceName

/-- What a reference refers to, apart from package and name. -/
inductive Referent where
  /-- A primitive type. -/
  | primitive (type : Primitive)
  /-- A declared type. -/
  | declared (sort : TypeSort)
  /-- An array type. -/
  | array (element : TypeRef)
  /-- A type variable, with its bound if it has one. -/
  | typeVariable (bound : Option TypeRef)
deriving DecidableEq, Repr

/-- What a reference refers to. -/
def referent : TypeRef → Referent
  | .primitive _ _ type => .primitive type
  | .declared _ _ sort => .declared sort
  | .array _ _ element => .array element
  | .unbounded _ _ => .typeVariable none
  | .bounded _ _ bound => .typeVariable (some bound)

/-- The reference with a package and a name. -/
def Referent.named (package name : String) : Referent → TypeRef
  | primitive type => .primitive package name type
  | declared sort => .declared package name sort
  | array element => .array package name element
  | typeVariable none => .unbounded package name
  | typeVariable (some bound) => .bounded package name bound

/-- The name of a sort of declared types. -/
def sortName : TypeSort → String
  | .classType => "class"
  | .interfaceType => "interface"
  | .enumType => "enum"
  | .annotationType => "annotation"

/-- Writes an object with one member. -/
def tagged (name : String) (json : Json) : Json := .ofMembers [(name, json)]

/-- Writes a reference, given how what it refers to is written. -/
def writeNamed (package name : String) (kind : Json) : Json :=
  .ofMembers [("package", .text package), ("name", .text name), ("kind", kind)]

/-- Writes a reference. -/
def writeTypeRef : TypeRef → Json
  | .primitive package name type =>
    writeNamed package name (tagged "primitive" (primitive.write type))
  | .declared package name sort => writeNamed package name (.text (sortName sort))
  | .array package name element => writeNamed package name (tagged "array" (writeTypeRef element))
  | .unbounded package name => writeNamed package name (tagged "type_variable" .null)
  | .bounded package name bound =>
    writeNamed package name (tagged "type_variable" (writeTypeRef bound))

/-- Writes what a reference refers to. -/
def writeReferent : Referent → Json
  | .primitive type => tagged "primitive" (primitive.write type)
  | .declared sort => .text (sortName sort)
  | .array element => tagged "array" (writeTypeRef element)
  | .typeVariable bound =>
    tagged "type_variable" ((bound.map writeTypeRef).getD .null)

/-- The variants of what a reference refers to, given a reader of the references inside. -/
def referentVariants (inner : Reader TypeRef) : List (String × Variant Referent) :=
  [("primitive", .carrying fun site json => (primitive.read site json).map .primitive),
   ("class", .plain (.declared .classType)),
   ("interface", .plain (.declared .interfaceType)),
   ("enum", .plain (.declared .enumType)),
   ("annotation", .plain (.declared .annotationType)),
   ("array", .carrying fun site json => (inner site json).map .array),
   ("type_variable", .carrying fun site json =>
      ((nullable ⟨inner, writeTypeRef⟩).read site json).map .typeVariable)]

/-- The fields of a reference, given a reader of the references inside. -/
def typeRefFields (inner : Reader TypeRef) : RecordFields TypeRef [String, String, Referent] :=
  optional "package" text "" TypeRef.package <|
  required "name" text TypeRef.name <|
  required "kind" ⟨readChoice (referentVariants inner), writeReferent⟩ referent <|
  .nil

/-- Reads a reference that holds no more than the given number of references inside one another. -/
def readTypeRef : Nat → Reader TypeRef
  | 0 => fun _ _ => .error .malformed
  | depth + 1 => fun site json =>
    readRecord "TypeBinding" (typeRefFields (readTypeRef depth))
      (fun (package, name, kind, ()) => kind.named package name) site json

/-- Type references. One reference inside another opens a level, so the levels left bound their number. -/
def typeRef : Codec TypeRef where
  read site json := readTypeRef (site.levels + 1) site json
  write := writeTypeRef

/-- Modifiers; those left out are not set. -/
def modifiers : Codec Modifiers :=
  record "Modifiers"
    (optional "static" flag false Modifiers.isStatic <|
     optional "final" flag false Modifiers.isFinal <|
     optional "abstract" flag false Modifiers.isAbstract <|
     optional "native" flag false Modifiers.isNative <|
     .nil)
    fun (isStatic, isFinal, isAbstract, isNative, ()) =>
      { isStatic, isFinal, isAbstract, isNative }

end HeaderForge.Manifest
