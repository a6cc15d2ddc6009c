import HeaderForge.Header.Statics

/-!
# Classes and interfaces

A class becomes an interface block with its variables and methods, an interface a protocol block. What
belongs to the type itself follows the block, and methods whose bodies are written elsewhere have a
block of their own at the end.
-/

namespace HeaderForge.Header

open Page (line lines)

/-- The line that closes a block. -/
def endLine : String := "@end"

/-- The steps that close a block after an empty line. -/
def blockEnd : List Page.Step := .newline :: line endLine

/-- The protocols every interface adopts. -/
def rootProtocols : List String :=
  [SupportLibrary.rootObject, SupportLibrary.sourceObjectProtocol]

/-- A list of protocols to adopt, as it follows a name. -/
def adopting (protocols : List String) : String :=
  if protocols.isEmpty then "" else " < " ++ ", ".intercalate protocols ++ " >"

/-- The class that a declared class extends. -/
def superName (context : Context) (declaration : TypeDeclaration) : String :=
  match declaration.superclass with
  | some superclass => context.naming.fullName superclass
  | none => SupportLibrary.rootObject

/-- The head of the block of an interface. The line is left open if the interface extends others. -/
def protocolHead (context : Context) (declaration : TypeDeclaration) : List Page.Step :=
  let adopted := declaration.interfaces.map context.naming.fullName
  let head :=
    "@protocol " ++ context.naming.fullName declaration.type ++ adopting (adopted ++ rootProtocols)
  if declaration.interfaces.isEmpty then line head else [.write head]

/-- The head of the block of a class, with the variables of its objects. -/
def classHead (context : Context) (declaration : TypeDeclaration) : Emission :=
  let adopted := declaration.interfaces.map context.naming.fullName
  let head :=
    "@interface " ++ context.naming.fullName declaration.type ++ " : "
      ++ superName context declaration ++ adopting adopted ++ " \x7b"
  (Emission.andThen ⟨line head, none⟩
    (instanceVariables context declaration.type declaration.fields)).andThen
    ⟨line "\x7d", none⟩

/-- The head of the block of a class or interface. -/
def typeHead (context : Context) (declaration : TypeDeclaration) : Emission :=
  if declaration.isInterface then ⟨protocolHead context declaration, none⟩
  else classHead context declaration

/-- The empty class that stands beside an interface with setup code, since protocols hold no code. -/
def companionClass (context : Context) (declaration : TypeDeclaration) : List Page.Step :=
  if haveInitializer declaration.methods then
    .newline ::
      line ("@interface " ++ context.naming.fullName declaration.type ++ " : "
        ++ SupportLibrary.rootObject)
      ++ blockEnd
  else
    []

/-- What follows the block of a class or interface for the type itself. -/
def typeStatics (context : Context) (declaration : TypeDeclaration) : List Page.Step :=
  let init := staticInit context declaration.type declaration.methods
  let storage := staticVariables context declaration.type declaration.fields
  if declaration.isInterface then
    companionClass context declaration ++ init ++ storage
  else
    init ++ fieldSetters context declaration.type declaration.fields ++ storage

/-- The methods whose bodies are written elsewhere. -/
def externalNatives (methods : List Method) : List Method := methods.filter Method.isExternalNative

/-- The line that declares a method whose body is written elsewhere. -/
def nativeLine (context : Context) (method : Method) : String :=
  context.naming.methodDeclaration method.signature ++ ";"

/-- The block of the methods whose bodies are written elsewhere, if there are any. -/
def nativeBlock (context : Context) (declaration : TypeDeclaration) : List Page.Step :=
  match externalNatives declaration.methods with
  | [] => []
  | methods =>
    .newline ::
      line ("@interface " ++ context.naming.fullName declaration.type ++ " ("
        ++ SupportLibrary.nativeCategory ++ ")")
      ++ lines (methods.map (nativeLine context)) ++ line endLine

/-- The declaration of a class or interface. -/
def typeEmission (context : Context) (declaration : TypeDeclaration) : Emission :=
  let type := declaration.type
  let start :=
    (checkFields context type declaration.fields).andThen
      (constantDefinitions context type declaration.fields)
  let above :=
    docLines declaration.doc ++ deprecatedLine context (isDeprecated declaration.annotations)
  let after :=
    methodsSteps context declaration.methods ++ blockEnd ++ typeStatics context declaration
      ++ boxedSteps context type ++ prefixAlias context type declaration.isTopLevel
      ++ nativeBlock context declaration
  ((start.andThen ⟨above, none⟩).andThen (typeHead context declaration)).andThen ⟨after, none⟩

end HeaderForge.Header
