import HeaderForge.Header.Emission
import HeaderForge.Header.Literals

/-!
# Constants of a declaration

A primitive constant has no storage. The header defines its name to be its value, so the value must be of
the declared type.
-/

namespace HeaderForge.Header

/-- The definition of a constant. -/
def definition (context : Context) (declaring : TypeRef) (var : Variable) (value : Constant) :
    String :=
  "#define " ++ context.naming.constantName declaring var ++ " " ++ literal value

/-- The fault of a variable whose constant is not of its declared type. -/
def mismatch? (context : Context) (declaring : TypeRef) (var : Variable) : Option Fault :=
  match var.primitiveConstant? with
  | none => none
  | some (type, value) =>
    if value.primitive? = some type then none
    else some <|
      .constantMismatch (context.naming.fullName declaring) var.name type.sourceName value.kindName

/-- The definition of a variable, if it is a primitive constant. -/
def variableDefinition (context : Context) (declaring : TypeRef) (var : Variable) : Emission :=
  match var.primitiveConstant?, mismatch? context declaring var with
  | none, _ => ⟨[], none⟩
  | some _, some fault => .failed fault
  | some (_, value), none => ⟨Page.line (definition context declaring var value), none⟩

/-- The definitions of all primitive constants, and an empty line if there are any. -/
def constantDefinitions (context : Context) (declaring : TypeRef) (fields : List Field) :
    Emission :=
  let fragments := fragmentsOf fields
  (Emission.forEach fragments (variableDefinition context declaring)).andThen
    ⟨if fragments.any Variable.isPrimitiveConstant then [.newline] else [], none⟩

end HeaderForge.Header
