import HeaderForge.Manifest.Members
import HeaderForge.Model.Declaration

/-!
# Declarations in manifests

A declaration is a record with a tag beside its fields, which says which form of declaration it is. The
tag may stand anywhere, so the rest is read ahead: first it only has to be sound JSON, and its content
is looked at when the tag is known.
-/

namespace HeaderForge.Manifest

/-- Classes and interfaces. -/
def typeDeclaration : Codec TypeDeclaration :=
  record "TypeDeclaration"
    (required "binding" typeRef TypeDeclaration.type <|
     optional "superclass" (nullable typeRef) none TypeDeclaration.superclass <|
     optional "superinterfaces" (list typeRef) [] TypeDeclaration.interfaces <|
     optional "modifiers" modifiers {} TypeDeclaration.modifiers <|
     optional "annotations" (list annotationUse) [] TypeDeclaration.annotations <|
     optional "doc" (nullable text) none TypeDeclaration.doc <|
     optional "fields" (list field) [] TypeDeclaration.fields <|
     optional "methods" (list method) [] TypeDeclaration.methods <|
     optional "top_level" flag true TypeDeclaration.isTopLevel <|
     .nil)
    fun (type, superclass, interfaces, modifiers, annotations, doc, fields, methods,
        isTopLevel, ()) =>
      { type, superclass, interfaces, modifiers, annotations, doc, fields, methods, isTopLevel }

/-- Constants of enums. -/
def enumConstant : Codec EnumConstant :=
  record "EnumConstantDeclaration"
    (required "name" text EnumConstant.name <|
     required "binding" variableCodec EnumConstant.storage <|
     .nil)
    fun (name, storage, ()) => { name, storage }

/-- Enums. -/
def enumDeclaration : Codec EnumDeclaration :=
  record "EnumDeclaration"
    (required "binding" typeRef EnumDeclaration.type <|
     optional "interfaces" (list typeRef) [] EnumDeclaration.interfaces <|
     optional "annotations" (list annotationUse) [] EnumDeclaration.annotations <|
     optional "doc" (nullable text) none EnumDeclaration.doc <|
     optional "constants" (list enumConstant) [] EnumDeclaration.constants <|
     optional "fields" (list field) [] EnumDeclaration.fields <|
     optional "methods" (list method) [] EnumDeclaration.methods <|
     optional "top_level" flag true EnumDeclaration.isTopLevel <|
     .nil)
    fun (type, interfaces, annotations, doc, constants, fields, methods, isTopLevel, ()) =>
      { type, interfaces, annotations, doc, constants, fields, methods, isTopLevel }

/-- Retentions. -/
def retention : Codec Retention :=
  names [("source", .source), ("class", .classFile), ("runtime", .runtime)]
    fun retention =>
      match retention with
      | .source => "source"
      | .classFile => "class"
      | .runtime => "runtime"

/-- Members of annotation types. -/
def annotationMember : Codec AnnotationMember :=
  record "AnnotationTypeMemberDeclaration"
    (required "name" text AnnotationMember.name <|
     required "type" typeRef AnnotationMember.type <|
     optional "default_value" (nullable text) none AnnotationMember.defaultText <|
     .nil)
    fun (name, type, defaultText, ()) => { name, type, defaultText }

/-- Annotation types. -/
def annotationDeclaration : Codec AnnotationDeclaration :=
  record "AnnotationTypeDeclaration"
    (required "binding" typeRef AnnotationDeclaration.type <|
     optional "retention" retention .classFile AnnotationDeclaration.retention <|
     optional "annotations" (list annotationUse) [] AnnotationDeclaration.annotations <|
     optional "doc" (nullable text) none AnnotationDeclaration.doc <|
     optional "members" (list annotationMember) [] AnnotationDeclaration.members <|
     optional "fields" (list field) [] AnnotationDeclaration.fields <|
     optional "methods" (list method) [] AnnotationDeclaration.methods <|
     optional "top_level" flag true AnnotationDeclaration.isTopLevel <|
     .nil)
    fun (type, retention, annotations, doc, members, fields, methods, isTopLevel, ()) =>
      { type, retention, annotations, doc, members, fields, methods, isTopLevel }

/-! ## The tag -/

/-- The forms of declaration. -/
inductive DeclarationForm where
  /-- A class or interface. -/
  | ofType
  /-- An enum. -/
  | ofEnum
  /-- An annotation type. -/
  | ofAnnotationType
deriving DecidableEq, Repr

/-- The name of the tag. -/
def tagName : String := "declaration"

/-- The forms by their tags. -/
def declarationForms : List (String × DeclarationForm) :=
  [("type", .ofType), ("enum", .ofEnum), ("annotation", .ofAnnotationType)]

/-- Reads a tag. -/
def readTag (json : Json) : Except Fault DeclarationForm :=
  match json with
  | .string (some name) => findVariant declarationForms name
  | json => mismatch "variant identifier" json

/-- Finds the tag among the members, which are read ahead, and the members beside it. -/
def splitTag (levels : Nat) : Option DeclarationForm → List (Option String × Json) →
    Except Fault (Option DeclarationForm × List (Option String × Json))
  | tag, [] => .ok (tag, [])
  | _, (none, _) :: _ => .error .malformed
  | tag, (some key, json) :: rest =>
    if key = tagName then
      if tag.isSome then .error (.duplicateField tagName)
      else do
        let tag ← readTag json
        splitTag levels (some tag) rest
    else if json.isSound levels then do
      let (tag, others) ← splitTag levels tag rest
      pure (tag, (some key, json) :: others)
    else
      .error .malformed

/-- Reads the content of a declaration of a given form. -/
def readContent (form : DeclarationForm) : Reader Declaration := fun site json =>
  match form with
  | .ofType => (typeDeclaration.read site json).map .ofType
  | .ofEnum => (enumDeclaration.read site json).map .ofEnum
  | .ofAnnotationType => (annotationDeclaration.read site json).map .ofAnnotationType

/-- Reads a declaration: an object with a tag, or an array that starts with the tag. -/
def readDeclaration : Reader Declaration := fun site json =>
  match json with
  | .object members => do
    let inside ← site.inside
    let (tag, others) ← splitTag inside.levels none members
    match tag with
    | none => .error (.missingField tagName)
    | some form => readContent form { site with isReadAhead := true } (.object others)
  | .array items => do
    let inside ← site.inside
    match items with
    | [] => .error (.missingField tagName)
    | tag :: rest => do
      let form ← readTag tag
      if Json.areSound inside.levels rest then
        readContent form { site with isReadAhead := true } (.array rest)
      else
        .error .malformed
  | json => mismatch "internally tagged enum Declaration" json

/-- The members of an object. -/
def membersOf : Json → List (Option String × Json)
  | .object members => members
  | _ => []

/-- Writes a declaration, its tag first. -/
def writeDeclaration (declaration : Declaration) : Json :=
  let (name, content) :=
    match declaration with
    | .ofType declaration => ("type", typeDeclaration.write declaration)
    | .ofEnum declaration => ("enum", enumDeclaration.write declaration)
    | .ofAnnotationType declaration => ("annotation", annotationDeclaration.write declaration)
  .object ((some tagName, .text name) :: membersOf content)

/-- Declarations. -/
def declaration : Codec Declaration := ⟨readDeclaration, writeDeclaration⟩

end HeaderForge.Manifest
