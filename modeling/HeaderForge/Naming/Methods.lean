import HeaderForge.Naming.Types

/-!
# Names of methods

How methods are declared in a header. A method's name holds a keyword for each parameter, made from the
parameter's type, unless the method stands for one of the target's own, whose keywords are given.
-/

namespace HeaderForge.Naming

/-- What a parameter type contributes to a method's name. -/
def typeKeyword (naming : Naming) : TypeRef → String
  | .primitive _ _ type => type.capitalName
  | .array _ _ element => naming.typeKeyword element ++ "Array"
  | .unbounded _ _ => "Id"
  | .bounded _ _ _ => "Id"
  | type@(.declared _ _ _) =>
    if type.qualifiedName = Foundation.objectName then "Id" else naming.fullName type

/-- A part of a method declaration: a keyword, and the type and name of the parameter it takes. -/
structure Slot where
  /-- The keyword. -/
  keyword : String
  /-- The parameter's type. -/
  type : String
  /-- The parameter's name. -/
  name : String
deriving DecidableEq, Repr

/-- The part as written. -/
def Slot.render (slot : Slot) : String :=
  slot.keyword ++ ":(" ++ slot.type ++ ")" ++ slot.name

/-- Parts as written, one after the other. -/
def renderSlots (slots : List Slot) : String := " ".intercalate (slots.map Slot.render)

/-- The part of a parameter, with a word before its type's keyword. -/
def parameterSlot (naming : Naming) (lead : String) (parameter : Parameter) : Slot :=
  ⟨lead ++ naming.typeKeyword parameter.type, naming.variableType parameter.type, parameter.name⟩

/-- The parts of the parameters. The first continues the method's name. -/
def parameterSlots (naming : Naming) : List Parameter → List Slot
  | [] => []
  | first :: rest => naming.parameterSlot "With" first :: rest.map (naming.parameterSlot "with")

/-- The sign of a method of the type itself, or of its objects. -/
def methodSign (signature : Signature) : String :=
  if signature.modifiers.isStatic then "+" else "-"

/-- The sign and result type of a method. -/
def methodStart (naming : Naming) (signature : Signature) : String :=
  methodSign signature ++ " (" ++ naming.variableType signature.returnType ++ ")"

/-- The declaration of a method. -/
def methodDeclaration (naming : Naming) (signature : Signature) : String :=
  naming.methodStart signature ++ signature.name
    ++ renderSlots (naming.parameterSlots signature.parameters)

/-- The start of the declaration of a constructor. -/
def constructorStart : String := "- (instancetype)init"

/-- The declaration of a constructor. -/
def constructorDeclaration (naming : Naming) (signature : Signature) : String :=
  constructorStart ++ renderSlots (naming.parameterSlots signature.parameters)

/-- The keywords of a selector. -/
def selectorKeywords (selector : String) : List String :=
  (Text.split ':' selector).filter (· ≠ "")

/-- The parts of a method whose keywords are given; what has no partner is left out. -/
def mappedSlots (naming : Naming) (selector : String) (parameters : List Parameter) : List Slot :=
  List.zipWith
    (fun keyword parameter => ⟨keyword, naming.variableType parameter.type, parameter.name⟩)
    (selectorKeywords selector) parameters

/-- The declaration of a method that stands for one with the given selector. -/
def mappedDeclaration (naming : Naming) (signature : Signature) (selector : String) : String :=
  naming.methodStart signature ++
    if signature.parameters.isEmpty then Text.trimEnd ':' selector
    else renderSlots (naming.mappedSlots selector signature.parameters)

/-! ## Constructors of annotations -/

/-- The members of an annotation type by their names; those of one name keep their order. -/
def sortedMembers (members : List AnnotationMember) : List AnnotationMember :=
  members.mergeSort fun left right => decide (left.name ≤ right.name)

/-- The part of an annotation member in the constructor. -/
def memberSlot (naming : Naming) (keyword : String) (member : AnnotationMember) : Slot :=
  ⟨keyword, naming.variableType member.type, member.name ++ "_"⟩

/-- The parts of annotation members in the constructor. The first continues the constructor's name. -/
def memberSlots (naming : Naming) : List AnnotationMember → List Slot
  | [] => []
  | first :: rest =>
    naming.memberSlot ("With" ++ Text.capitalize first.name) first
      :: rest.map fun member => naming.memberSlot member.name member

/-- The declaration of the constructor that takes a value for each member of an annotation type. -/
def annotationConstructor (naming : Naming) (members : List AnnotationMember) : String :=
  constructorStart ++ renderSlots (naming.memberSlots (sortedMembers members))

end HeaderForge.Naming
