import HeaderForge.Header.Constants
import HeaderForge.Header.Members

/-!
# Statics and setters

What stands outside the block of a type: its setup function, the storage of its static variables with
the macros that reach it, and the macros that set variables of objects.
-/

namespace HeaderForge.Header

open Page (line lines)

/-- The static variables with storage: all but primitive constants. -/
def storedStatics (fields : List Field) : List Variable :=
  (fragmentsOf (fields.filter fun field => field.modifiers.isStatic)).filter
    fun var => !var.isPrimitiveConstant

/-- A macro applied to arguments. -/
def macroCall (name : String) (arguments : List String) : String :=
  name ++ "(" ++ ", ".intercalate arguments ++ ")"

/-- The declaration of the setup function. It does nothing if no method sets the type up. -/
def staticInit (context : Context) (declaring : TypeRef) (methods : List Method) :
    List Page.Step :=
  let name := context.naming.fullName declaring
  .newline ::
    if haveInitializer methods then
      lines
        [SupportLibrary.exportMark ++ " BOOL " ++ name ++ "_initialized;",
         macroCall SupportLibrary.staticInit [name]]
    else
      line (SupportLibrary.emptyInit ++ " " ++ name ++ "_init() \x7b\x7d")

/-- The macro that changes a static variable, unless it is final. -/
def staticMutator? (var : Variable) : Option String :=
  if var.modifiers.isFinal then none
  else if var.type.isPrimitive then some SupportLibrary.staticReference
  else some SupportLibrary.staticSetter

/-- The storage of a static variable and the macros that reach it, after an empty line. -/
def staticVariable (context : Context) (declaring : TypeRef) (var : Variable) : List Page.Step :=
  let type := context.naming.variableType var.type
  let owner := context.naming.fullName declaring
  let name := Naming.staticName var
  .newline ::
    lines
      ([SupportLibrary.exportMark ++ " " ++ type ++ nameSeparator type ++ owner ++ "_" ++ name ++ ";",
        macroCall SupportLibrary.staticGetter [owner, name, type]]
        ++ ((staticMutator? var).map fun mutator => macroCall mutator [owner, name, type]).toList)

/-- The storage of all static variables that have any. -/
def staticVariables (context : Context) (declaring : TypeRef) (fields : List Field) :
    List Page.Step :=
  (storedStatics fields).flatMap (staticVariable context declaring)

/-- The macros that set the variables a field declares: those of objects that hold other objects and keep
them alive. -/
def setterLines (context : Context) (declaring : TypeRef) (field : Field) : List String :=
  if field.modifiers.isStatic || field.type.isPrimitive then []
  else
    (field.fragments.filter fun var => !var.isWeak).map fun var =>
      macroCall SupportLibrary.fieldSetter
        [context.naming.fullName declaring, Naming.fieldName var,
         context.naming.variableType field.type]

/-- The macros that set variables of objects, after an empty line if there are any. -/
def fieldSetters (context : Context) (declaring : TypeRef) (fields : List Field) :
    List Page.Step :=
  match fields.flatMap (setterLines context declaring) with
  | [] => []
  | setters => .newline :: lines setters

/-- The macro for counting up and down, for wrappers of types that can be counted. -/
def boxedSteps (context : Context) (declaring : TypeRef) : List Page.Step :=
  match Primitive.ofWrapper? declaring.qualifiedName with
  | none => []
  | some type =>
    if type.hasStep then
      .newline ::
        line (macroCall SupportLibrary.boxedSteps
          [type.capitalName, type.valueAccessor, context.naming.fullName declaring])
    else
      []

/-- The name a top-level type would have without the short name of its package, as an alias. Protocols
have no type aliases, so theirs is a definition. -/
def prefixAlias (context : Context) (declaring : TypeRef) (isTopLevel : Bool) : List Page.Step :=
  if isTopLevel && context.naming.hasShortName declaring.package then
    let name := context.naming.fullName declaring
    let unprefixed := Naming.unprefixedName declaring
    .newline ::
      line
        (if declaring.isProtocol then "#define " ++ unprefixed ++ " " ++ name
         else "typedef " ++ name ++ " " ++ unprefixed ++ ";")
  else
    []

end HeaderForge.Header
