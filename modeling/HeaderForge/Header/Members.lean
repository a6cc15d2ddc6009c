import HeaderForge.Header.Emission
import HeaderForge.Vocabulary.MethodFamily

/-!
# Fields and methods

The variables of objects, and the methods a declaration declares in its main block.
-/

namespace HeaderForge.Header

open Page (line lines indented)

/-- The comment above a declaration, without the line feeds at its end. -/
def docLines : Option String → List Page.Step
  | none => []
  | some doc => line (Text.trimEnd '\n' doc)

/-- Whether a declaration is marked as deprecated. -/
def Context.marks (context : Context) (deprecated : Bool) : Bool :=
  context.settings.marksDeprecated && deprecated

/-- The line that marks a deprecated declaration. -/
def deprecatedLine (context : Context) (deprecated : Bool) : List Page.Step :=
  if context.marks deprecated then line SupportLibrary.deprecatedAttribute else []

/-- The fault of fields of which one declares no variable. -/
def emptyField? (context : Context) (declaring : TypeRef) (fields : List Field) : Option Fault :=
  if fields.any fun field => field.fragments.isEmpty then
    some (.emptyField (context.naming.fullName declaring))
  else
    none

/-- Stops if one of the fields declares no variable. -/
def checkFields (context : Context) (declaring : TypeRef) (fields : List Field) : Emission :=
  ⟨[], emptyField? context declaring fields⟩

/-! ## Variables of objects -/

/-- The fields of the objects themselves. -/
def instanceFields (fields : List Field) : List Field :=
  fields.filter fun field => !field.modifiers.isStatic

/-- Whether variables of a type hold pointers to objects without showing it. -/
def isObjectType (variableType : String) : Bool :=
  variableType == "id" || variableType == "Class"
    || (Text.startsWith variableType "id<" && Text.endsWith variableType ">")

/-- Whether the names of variables of a type need an asterisk. -/
def needsAsterisk (type : TypeRef) (variableType : String) : Bool :=
  !type.isPrimitive && !isObjectType variableType

/-- A line that declares variables of the type of the first. The asterisk of a pointer type stands
before each name. -/
def variablesLine (context : Context) (lead : Variable) (fragments : List Variable) : String :=
  let type := context.naming.specificType lead.type
  let asterisk := needsAsterisk lead.type type
  let base := if asterisk then Text.dropEnding " *" type else type
  let mark := if asterisk then "*" else ""
  (if lead.isWeak then SupportLibrary.weakMark ++ " " else "") ++ base ++ " "
    ++ ", ".intercalate (fragments.map fun var => mark ++ Naming.fieldName var) ++ ";"

/-- The declaration of a field of the objects. -/
def instanceField (context : Context) (declaring : TypeRef) (field : Field) : Emission :=
  match field.fragments with
  | [] => .failed (.emptyField (context.naming.fullName declaring))
  | lead :: _ =>
    ⟨indented (docLines field.doc ++ line (variablesLine context lead field.fragments)), none⟩

/-- The declarations of all fields of the objects, which everything may use. -/
def instanceVariables (context : Context) (declaring : TypeRef) (fields : List Field) : Emission :=
  match instanceFields fields with
  | [] => ⟨[], none⟩
  | first :: rest =>
    let start := checkFields context declaring [first]
    (start.andThen ⟨line SupportLibrary.publicLine, none⟩).andThen
      (.forEach (first :: rest) (instanceField context declaring))

/-! ## Methods -/

/-- What stands after the name of a method that must say that it belongs to no family. -/
def familyMark (methodName : String) : String :=
  if MethodFamily.needsOverride methodName then " " ++ MethodFamily.noFamily else ""

/-- What stands after a deprecated method. -/
def deprecatedMark (context : Context) (deprecated : Bool) : String :=
  if context.marks deprecated then " " ++ SupportLibrary.deprecatedAttribute else ""

/-- The line that declares an ordinary method. -/
def ordinaryLine (context : Context) (method : Method) : String :=
  context.naming.methodDeclaration method.signature ++ familyMark method.signature.name
    ++ deprecatedMark context (isDeprecated method.annotations) ++ ";"

/-- The line that declares a method in the main block. Functions, setup code, and ordinary methods that
the compiler added or whose bodies are elsewhere have none. -/
def methodLine? (context : Context) (method : Method) : Option String :=
  if method.signature.isFunction then none
  else
    match method.signature.mappedSelector, method.signature.sort with
    | some selector, _ =>
      some (context.naming.mappedDeclaration method.signature selector ++ ";")
    | none, .constructor => some (context.naming.constructorDeclaration method.signature ++ ";")
    | none, .staticInitializer => none
    | none, .ordinary =>
      if method.signature.isSynthetic || method.isExternalNative then none
      else some (ordinaryLine context method)

/-- A method of the main block, after an empty line. -/
def methodSteps (context : Context) (method : Method) : List Page.Step :=
  match methodLine? context method with
  | none => []
  | some text => .newline :: docLines method.doc ++ line text

/-- The methods of the main block. -/
def methodsSteps (context : Context) (methods : List Method) : List Page.Step :=
  methods.flatMap (methodSteps context)

end HeaderForge.Header
