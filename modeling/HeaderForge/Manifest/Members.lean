import HeaderForge.Manifest.Types
import HeaderForge.Model.Member

/-!
# Members in manifests

The codecs of constants, variables, fields, methods and annotations.
-/

namespace HeaderForge.Manifest

/-- A variant that carries a value. -/
def carried (codec : Codec α) (wrap : α → β) : Variant β :=
  .carrying fun site json => (codec.read site json).map wrap

/-- The variants of constants. -/
def constantVariants : List (String × Variant Constant) :=
  [("boolean", carried flag .boolean),
   ("char", carried unsigned16 .char),
   ("byte", carried int8 .byte),
   ("short", carried int16 .short),
   ("int", carried int32 .int),
   ("long", carried int64 .long),
   ("float", carried single .float),
   ("double", carried double .double),
   ("string", carried text .string)]

/-- Writes a constant. -/
def writeConstant : Constant → Json
  | .boolean value => tagged "boolean" (flag.write value)
  | .char value => tagged "char" (unsigned16.write value)
  | .byte value => tagged "byte" (int8.write value)
  | .short value => tagged "short" (int16.write value)
  | .int value => tagged "int" (int32.write value)
  | .long value => tagged "long" (int64.write value)
  | .float value => tagged "float" (single.write value)
  | .double value => tagged "double" (double.write value)
  | .string value => tagged "string" (text.write value)

/-- Constants. -/
def constant : Codec Constant := ⟨readChoice constantVariants, writeConstant⟩

/-- Variables. -/
def variableCodec : Codec Variable :=
  record "VariableBinding"
    (required "name" text Variable.name <|
     required "type" typeRef Variable.type <|
     optional "modifiers" modifiers {} Variable.modifiers <|
     optional "constant_value" (nullable constant) none Variable.constant <|
     optional "weak" flag false Variable.isWeak <|
     optional "enum_constant" flag false Variable.isEnumConstant <|
     .nil)
    fun (name, type, modifiers, constant, isWeak, isEnumConstant, ()) =>
      { name, type, modifiers, constant, isWeak, isEnumConstant }

/-- Fragments of fields: a variable wrapped in a record of its own. -/
def fragment : Codec Variable :=
  record "VariableDeclarationFragment" (required "binding" variableCodec id .nil)
    fun (var, ()) => var

/-- Fields. -/
def field : Codec Field :=
  record "FieldDeclaration"
    (required "type" typeRef Field.type <|
     optional "modifiers" modifiers {} Field.modifiers <|
     optional "doc" (nullable text) none Field.doc <|
     required "fragments" (list fragment) Field.fragments <|
     .nil)
    fun (type, modifiers, doc, fragments, ()) => { type, modifiers, doc, fragments }

/-- Sorts of methods. -/
def methodSort : Codec MethodSort :=
  names
    [("method", .ordinary), ("constructor", .constructor),
     ("static_initializer", .staticInitializer)]
    fun sort =>
      match sort with
      | .ordinary => "method"
      | .constructor => "constructor"
      | .staticInitializer => "static_initializer"

/-- Parameters. -/
def parameter : Codec Parameter :=
  record "Parameter"
    (required "name" text Parameter.name <|
     required "type" typeRef Parameter.type <|
     .nil)
    fun (name, type, ()) => { name, type }

/-- Signatures. -/
def signature : Codec Signature :=
  record "MethodBinding"
    (required "name" text Signature.name <|
     optional "kind" methodSort .ordinary Signature.sort <|
     optional "modifiers" modifiers {} Signature.modifiers <|
     optional "parameters" (list parameter) [] Signature.parameters <|
     required "return_type" typeRef Signature.returnType <|
     optional "synthetic" flag false Signature.isSynthetic <|
     optional "function" flag false Signature.isFunction <|
     optional "mapped_selector" (nullable text) none Signature.mappedSelector <|
     .nil)
    fun (name, sort, modifiers, parameters, returnType, isSynthetic, isFunction,
        mappedSelector, ()) =>
      { name, sort, modifiers, parameters, returnType, isSynthetic, isFunction, mappedSelector }

/-- Annotations. -/
def annotationUse : Codec AnnotationUse :=
  record "Annotation" (required "type_name" text AnnotationUse.typeName .nil)
    fun (typeName, ()) => { typeName }

/-- Methods. -/
def method : Codec Method :=
  record "MethodDeclaration"
    (required "binding" signature Method.signature <|
     optional "doc" (nullable text) none Method.doc <|
     optional "annotations" (list annotationUse) [] Method.annotations <|
     optional "has_native_code" flag false Method.hasNativeCode <|
     .nil)
    fun (signature, doc, annotations, hasNativeCode, ()) =>
      { signature, doc, annotations, hasNativeCode }

end HeaderForge.Manifest
