import HeaderForge.Header.Types

/-!
# Enums

An enum becomes an enumeration of numbers and a class. The objects of the class are kept in an array,
and each constant is a macro that finds its object by the number of its name.
-/

namespace HeaderForge.Header

open Page (line lines indented)

/-- The name of a constant in the enumeration of numbers. -/
def enumeratorName (context : Context) (declaration : EnumDeclaration) (constant : EnumConstant) :
    String :=
  context.naming.bareName declaration.type ++ "_" ++ constant.name

/-- The line that gives a constant its number. -/
def enumeratorLine (context : Context) (declaration : EnumDeclaration)
    (numbered : EnumConstant × Nat) : String :=
  enumeratorName context declaration numbered.1 ++ " = " ++ toString numbered.2 ++ ","

/-- The enumeration of numbers. Without constants there is none, since it could not be empty. -/
def enumeration (context : Context) (declaration : EnumDeclaration) : List Page.Step :=
  if declaration.constants.isEmpty then []
  else
    line "typedef enum \x7b"
      ++ indented (lines (declaration.constants.zipIdx.map (enumeratorLine context declaration)))
      ++ line ("\x7d " ++ context.naming.bareName declaration.type ++ ";") ++ [.newline]

/-- The protocols the class of an enum adopts. The interface of objects that can be copied is left out,
since all enums are such objects. -/
def enumProtocols (context : Context) (declaration : EnumDeclaration) : List String :=
  SupportLibrary.copyingProtocol ::
    (declaration.interfaces.filter fun type =>
      type.simpleName ≠ SupportLibrary.copyingInterface).map context.naming.fullName

/-- The head of the class of an enum, with the variables of its objects. -/
def enumHead (context : Context) (declaration : EnumDeclaration) : Emission :=
  let head :=
    "@interface " ++ context.naming.fullName declaration.type ++ " : " ++ SupportLibrary.enumBase
      ++ adopting (enumProtocols context declaration) ++ " \x7b"
  (Emission.andThen ⟨line head, none⟩
    (instanceVariables context declaration.type declaration.fields)).andThen
    ⟨line "\x7d", none⟩

/-- The methods every class of an enum has. -/
def enumMethods (className : String) : List String :=
  ["+ (" ++ SupportLibrary.objectArray ++ " *)values;",
   "+ (" ++ className ++ " *)valueOfWithNSString:(NSString *)name;",
   "- (id)copyWithZone:(NSZone *)zone;"]

/-- The array of the objects of an enum. -/
def valuesArray (context : Context) (declaration : EnumDeclaration) : List Page.Step :=
  let name := context.naming.fullName declaration.type
  let size :=
    if declaration.constants.isEmpty then "" else toString declaration.constants.length
  .newline ::
    line (SupportLibrary.exportMark ++ " " ++ name ++ " *" ++ name ++ "_values[" ++ size ++ "];")

/-- The macros of a constant: one for its object and one to reach it like a static variable. -/
def constantAccess (context : Context) (declaration : EnumDeclaration) (constant : EnumConstant) :
    List Page.Step :=
  let name := context.naming.fullName declaration.type
  let var := Naming.staticName constant.storage
  .newline ::
    lines
      ["#define " ++ name ++ "_" ++ var ++ " " ++ name ++ "_values["
          ++ enumeratorName context declaration constant ++ "]",
       macroCall SupportLibrary.staticGetter [name, var, name ++ " *"]]

/-- The declaration of an enum. -/
def enumEmission (context : Context) (declaration : EnumDeclaration) : Emission :=
  let type := declaration.type
  let start :=
    (checkFields context type declaration.fields).andThen
      (constantDefinitions context type declaration.fields)
  let above :=
    enumeration context declaration ++ docLines declaration.doc
      ++ deprecatedLine context (isDeprecated declaration.annotations)
  let after :=
    lines (enumMethods (context.naming.fullName type)) ++ methodsSteps context declaration.methods
      ++ line endLine ++ staticInit context type declaration.methods
      ++ valuesArray context declaration
      ++ declaration.constants.flatMap (constantAccess context declaration)
      ++ staticVariables context type declaration.fields
      ++ fieldSetters context type declaration.fields
      ++ prefixAlias context type declaration.isTopLevel
  ((start.andThen ⟨above, none⟩).andThen (enumHead context declaration)).andThen ⟨after, none⟩

end HeaderForge.Header
