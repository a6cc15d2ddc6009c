import HeaderForge.Header.Types

/-!
# Annotation types

An annotation type becomes a protocol. If its annotations are kept while the program runs, the protocol
has a property for each member, and a class with a variable for each member adopts it. A class is also
needed for static variables.
-/

namespace HeaderForge.Header

open Page (line lines indented)

/-- A variable or property of an annotation member: its type and its name. -/
def memberVariable (type : String) (member : AnnotationMember) : String :=
  type ++ nameSeparator type ++ member.name ++ ";"

/-- The lines that declare a member as a property. -/
def propertyLines (context : Context) (member : AnnotationMember) : List String :=
  let type := context.naming.specificType member.type
  ("@property (readonly) " ++ memberVariable type member) ::
    if MethodFamily.needsOverride member.name then
      ["- (" ++ type ++ ")" ++ member.name ++ familyMark member.name ++ ";"]
    else
      []

/-- The properties of the members, between empty lines. -/
def properties (context : Context) (members : List AnnotationMember) : List Page.Step :=
  if members.isEmpty then []
  else .newline :: lines (members.flatMap (propertyLines context)) ++ [.newline]

/-- The line that declares a member as a variable. -/
def memberLine (context : Context) (member : AnnotationMember) : String :=
  memberVariable (context.naming.variableType member.type) member

/-- The variables of the members and the constructor that sets them, after the head of the class, whose
line is still open. -/
def memberVariables (context : Context) (members : List AnnotationMember) : List Page.Step :=
  if members.isEmpty then [.newline]
  else
    lines [" \x7b", SupportLibrary.privateLine]
      ++ indented (lines (members.map (memberLine context))) ++ line "\x7d"
      ++ .newline :: line (context.naming.annotationConstructor members ++ ";")

/-- The line that declares the method that gives the default value of a member. -/
def defaultLine? (context : Context) (member : AnnotationMember) : Option String :=
  member.defaultText.map fun _ =>
    "+ (" ++ context.naming.specificType member.type ++ ")" ++ member.name ++ "Default;"

/-- The methods that give default values, after an empty line if there are any. -/
def defaultAccessors (context : Context) (members : List AnnotationMember) : List Page.Step :=
  match members.filterMap (defaultLine? context) with
  | [] => []
  | accessors => .newline :: lines accessors

/-- The protocol of an annotation type. -/
def annotationProtocol (context : Context) (declaration : AnnotationDeclaration) :
    List Page.Step :=
  line ("@protocol " ++ context.naming.fullName declaration.type
      ++ adopting [SupportLibrary.annotationProtocol])
    ++ (if declaration.isRuntime then properties context declaration.members else []) ++ blockEnd

/-- Whether an annotation type needs a class. -/
def needsClass (declaration : AnnotationDeclaration) : Bool :=
  declaration.isRuntime || !(storedStatics declaration.fields).isEmpty

/-- The class of an annotation type, and what belongs to it. -/
def annotationClass (context : Context) (declaration : AnnotationDeclaration) : List Page.Step :=
  let name := context.naming.fullName declaration.type
  let body :=
    if declaration.isRuntime then
      memberVariables context declaration.members ++ defaultAccessors context declaration.members
    else
      [.newline]
  [.newline,
   .write ("@interface " ++ name ++ " : " ++ SupportLibrary.rootObject ++ adopting [name])]
    ++ body ++ blockEnd ++ staticInit context declaration.type declaration.methods
    ++ staticVariables context declaration.type declaration.fields

/-- The declaration of an annotation type. -/
def annotationEmission (context : Context) (declaration : AnnotationDeclaration) : Emission :=
  let type := declaration.type
  let start :=
    (checkFields context type declaration.fields).andThen
      (constantDefinitions context type declaration.fields)
  let rest :=
    docLines declaration.doc ++ annotationProtocol context declaration
      ++ (if needsClass declaration then annotationClass context declaration else [])
      ++ prefixAlias context type declaration.isTopLevel
  start.andThen ⟨rest, none⟩

end HeaderForge.Header
