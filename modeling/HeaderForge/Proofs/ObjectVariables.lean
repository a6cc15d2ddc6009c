import HeaderForge.Proofs.Declarations
import HeaderForge.Proofs.TypeUse.References

/-!
# Variables of objects

A field of the objects is declared on one line, which begins with the type of its first variable. The
asterisk of a pointer type is taken off the type and set before each variable instead, or else it would
belong to the first one alone. Whether there is one is read off the text of the type. This works for
every text a type can have, except for type variables that are bound to a primitive type.
-/

namespace HeaderForge

/-- Whether the type is a type variable whose bounds end in a primitive type. -/
def TypeRef.isBoundToPrimitive (type : TypeRef) : Bool :=
  !type.isPrimitive && type.resolved.isPrimitive

namespace Header

open Page (line lines indented)

/-- A line that declares variables of one type, taken apart. -/
structure VariableLine where
  /-- The objects the variables refer to are not kept alive. -/
  isWeak : Bool
  /-- What the line says of the type before its variables. -/
  base : String
  /-- An asterisk stands before each variable. -/
  isStarred : Bool
  /-- The names of the variables. -/
  names : List String
deriving DecidableEq, Repr

namespace VariableLine

/-- The line as written. -/
def text (parts : VariableLine) : String :=
  (if parts.isWeak then "__weak " else "") ++ parts.base ++ " "
    ++ ", ".intercalate (parts.names.map fun name => (if parts.isStarred then "*" else "") ++ name)
    ++ ";"

/-- The type that the line gives to each of its variables. -/
def fullType (parts : VariableLine) : String :=
  if parts.isStarred then parts.base ++ " *" else parts.base

/-- The line declares the variables of a field, each with the type of the first. -/
structure Declares (naming : Naming) (lead : Variable) (fragments : List Variable)
    (parts : VariableLine) : Prop where
  /-- The variables are weak if the first is. -/
  isWeak : parts.isWeak = lead.isWeak
  /-- All have the type of the first. -/
  fullType : parts.fullType = naming.specificType lead.type
  /-- All are there, in order. -/
  names : parts.names = fragments.map fun var => var.name ++ "_"
  /-- They have asterisks where the type is a pointer to objects of a class. -/
  starred : parts.isStarred = true ↔ ∃ className, naming.specificType lead.type = className ++ " *"
  /-- They have none where it is primitive, any object, or the adopter of a protocol. -/
  unstarred : parts.isStarred = false ↔
    lead.type.isPrimitive = true ∨ naming.specificType lead.type = "id" ∨
      ∃ protocolName, naming.specificType lead.type = "id<" ++ protocolName ++ ">"

end VariableLine

/-! ## The texts of types -/

/-- The text of a type that is no type variable with a bound. -/
theorem variableType_cases (naming : Naming) (type : TypeRef) :
    type.isPrimitive = true ∨ naming.variableType type = "id" ∨
      (∃ protocolName, naming.variableType type = Naming.adopter protocolName) ∨
      ∃ className, naming.variableType type = Naming.pointer className := by
  cases type with
  | primitive package name type => exact Or.inl rfl
  | unbounded package name => exact Or.inr (Or.inl rfl)
  | bounded package name bound => exact Or.inr (Or.inl rfl)
  | array package name element => exact Or.inr (Or.inr (Or.inr ⟨_, rfl⟩))
  | declared package name sort =>
      right
      simp only [Naming.variableType]
      split_ifs
      · exact Or.inl rfl
      · exact Or.inr (Or.inl ⟨_, rfl⟩)
      · exact Or.inr (Or.inr ⟨_, rfl⟩)

theorem specificType_cases (naming : Naming) {type : TypeRef}
    (unbound : type.isBoundToPrimitive = false) :
    type.isPrimitive = true ∨ naming.specificType type = "id" ∨
      (∃ protocolName, naming.specificType type = Naming.adopter protocolName) ∨
      ∃ className, naming.specificType type = Naming.pointer className := by
  rw [naming.specificType_eq_resolved]
  refine (variableType_cases naming type.resolved).imp_left fun resolved => ?_
  simpa [TypeRef.isBoundToPrimitive, resolved] using unbound

theorem specificType_ne_pointer_of_isPrimitive (naming : Naming) {type : TypeRef}
    (is_primitive : type.isPrimitive = true) (className : String) :
    naming.specificType type ≠ Naming.pointer className := by
  cases type with
  | primitive package name type =>
      have text_eq : naming.specificType (.primitive package name type) = type.targetName := rfl
      rw [text_eq]
      exact (pointer_ne_of_getLast? (by cases type <;> decide) className).symm
  | declared package name sort => cases is_primitive
  | array package name element => cases is_primitive
  | unbounded package name => cases is_primitive
  | bounded package name bound => cases is_primitive

/-- An asterisk is needed exactly for pointers to objects of a class. -/
theorem needsAsterisk_iff (naming : Naming) {type : TypeRef}
    (unbound : type.isBoundToPrimitive = false) :
    needsAsterisk type (naming.specificType type) = true ↔
      ∃ className, naming.specificType type = Naming.pointer className := by
  constructor
  · intro needed
    rw [needsAsterisk, Bool.and_eq_true_iff] at needed
    rcases specificType_cases naming unbound with primitive | object | ⟨name, adopted⟩ | pointed
    · simp [primitive] at needed
    · rw [object] at needed
      exact absurd needed.2 (by decide)
    · simp [adopted, isObjectType_adopter] at needed
    · exact pointed
  · rintro ⟨className, pointed⟩
    have not_primitive : type.isPrimitive = false := by
      rw [← Bool.not_eq_true]
      exact fun primitive => specificType_ne_pointer_of_isPrimitive naming primitive className pointed
    rw [needsAsterisk, not_primitive, pointed, isObjectType_pointer]
    rfl

theorem needsAsterisk_eq_false_iff (naming : Naming) {type : TypeRef}
    (unbound : type.isBoundToPrimitive = false) :
    needsAsterisk type (naming.specificType type) = false ↔
      type.isPrimitive = true ∨ naming.specificType type = "id" ∨
        ∃ protocolName, naming.specificType type = Naming.adopter protocolName := by
  rw [← Bool.not_eq_true, needsAsterisk_iff naming unbound]
  constructor
  · intro not_pointed
    rcases specificType_cases naming unbound with primitive | object | adopted | pointed
    · exact Or.inl primitive
    · exact Or.inr (Or.inl object)
    · exact Or.inr (Or.inr adopted)
    · exact absurd pointed not_pointed
  · rintro (primitive | object | ⟨protocolName, adopted⟩) ⟨className, pointed⟩
    · exact specificType_ne_pointer_of_isPrimitive naming primitive className pointed
    · exact pointer_ne_of_getLast? (by decide) className (pointed.symm.trans object)
    · exact adopter_ne_pointer protocolName className (adopted.symm.trans pointed)

/-! ## Lines -/

/-- The line of variables whose type is that of the first, taken apart. -/
def objectLine (naming : Naming) (lead : Variable) (fragments : List Variable) : VariableLine :=
  let type := naming.specificType lead.type
  let asterisk := needsAsterisk lead.type type
  { isWeak := lead.isWeak
    base := if asterisk then Text.dropEnding " *" type else type
    isStarred := asterisk
    names := fragments.map Naming.fieldName }

theorem text_objectLine (context : Context) (lead : Variable) (fragments : List Variable) :
    (objectLine context.naming lead fragments).text = variablesLine context lead fragments := by
  simp only [VariableLine.text, objectLine, variablesLine, List.map_map, Function.comp_def]
  rfl

theorem objectLine_declares (naming : Naming) {lead : Variable} (fragments : List Variable)
    (unbound : lead.type.isBoundToPrimitive = false) :
    (objectLine naming lead fragments).Declares naming lead fragments := by
  refine ⟨rfl, ?_, rfl, needsAsterisk_iff naming unbound, needsAsterisk_eq_false_iff naming unbound⟩
  simp only [VariableLine.fullType, objectLine]
  split_ifs with needed
  · obtain ⟨className, pointed⟩ := (needsAsterisk_iff naming unbound).mp needed
    rw [pointed, dropEnding_pointer]
    rfl
  · rfl

/-- The line of a field with variables, taken apart. -/
def fieldParts (naming : Naming) (field : Field) : VariableLine :=
  match field.fragments with
  | [] => { isWeak := false, base := "", isStarred := false, names := [] }
  | lead :: _ => objectLine naming lead field.fragments

theorem instanceField_steps_of_filled (context : Context) (declaring : TypeRef) {field : Field}
    (filled : field.fragments ≠ []) :
    (instanceField context declaring field).steps =
      indented (docLines field.doc ++ line (fieldParts context.naming field).text) := by
  unfold instanceField fieldParts
  cases fragments_eq : field.fragments with
  | nil => exact absurd fragments_eq filled
  | cons lead rest => simp only [text_objectLine]

/-- The objects of a type have the variables of its fields that are not static, one line for each field,
with the type of its first variable. -/
theorem instanceVariables_declare (context : Context) (declaring : TypeRef) {fields : List Field}
    (filled : ∀ field ∈ fields, field.fragments ≠ [])
    (unbound : ∀ field ∈ fields, ∀ lead ∈ field.fragments.head?,
      lead.type.isBoundToPrimitive = false) :
    ∃ lineOf : Field → VariableLine,
      instanceVariables context declaring fields =
          ⟨if (fields.filter fun field => !field.modifiers.isStatic) = [] then []
            else
              line " @public" ++
                (fields.filter fun field => !field.modifiers.isStatic).flatMap fun field =>
                  indented (docLines field.doc ++ line (lineOf field).text),
            none⟩ ∧
        ∀ field ∈ fields, ∀ lead ∈ field.fragments.head?,
          (lineOf field).Declares context.naming lead field.fragments := by
  refine ⟨fieldParts context.naming, ?_, ?_⟩
  · have filled_instance := filled_instanceFields filled
    rw [instanceVariables_of_filled context declaring filled_instance,
      List.flatMap_congr fun field field_mem =>
        instanceField_steps_of_filled context declaring (filled_instance field field_mem)]
    rfl
  · intro field field_mem lead lead_first
    obtain ⟨rest, fragments_eq⟩ := List.head?_eq_some_iff.mp lead_first
    have parts_eq : fieldParts context.naming field =
        objectLine context.naming lead field.fragments := by
      rw [fieldParts, fragments_eq]
    rw [parts_eq]
    exact objectLine_declares context.naming field.fragments (unbound field field_mem lead lead_first)

/-- Two weak variables whose type is bound to a class, a variable of the type itself, and two variables
that adopt a protocol, of which the second is given as a number. -/
def nodeFields : List Field :=
  let ownerClass := TypeRef.declared "org.graph" "Node.Owner" .classType
  let owner := TypeRef.variableNamed "T" (some (.variableNamed "S" (some ownerClass)))
  let int := TypeRef.ofPrimitive .int
  let listener := TypeRef.declared "org.graph" "Listener" .interfaceType
  [{ type := owner
     doc := some "// Not kept"
     fragments :=
      [{ name := "parent", type := owner, isWeak := true }, { name := "root", type := owner }] },
   { type := int
     modifiers := { isStatic := true }
     fragments := [{ name := "count", type := int, modifiers := { isStatic := true } }] },
   { type := listener
     fragments := [{ name := "first", type := listener }, { name := "last", type := int }] }]

/-- The variables of the bounded type all have an asterisk, those of the protocol have none. -/
theorem instanceVariables_declare_of_node :
    let naming : Naming := { prefixes := [⟨"org.graph", "OG"⟩] }
    let node := TypeRef.declared "org.graph" "Node" .classType
    ∃ owners listeners : VariableLine,
      instanceVariables { naming } node nodeFields =
          ⟨line " @public" ++ indented (line "// Not kept" ++ line owners.text)
            ++ indented (line listeners.text), none⟩ ∧
        (owners.isWeak = true ∧ owners.fullType = "OGNode_Owner *" ∧ owners.isStarred = true ∧
          owners.names = ["parent_", "root_"]) ∧
        listeners.isWeak = false ∧ listeners.fullType = "id<OGListener>" ∧
          listeners.isStarred = false ∧ listeners.names = ["first_", "last_"] := by
  intro naming node
  have filled : ∀ field ∈ nodeFields, field.fragments ≠ [] := by decide
  have unbound : ∀ field ∈ nodeFields, ∀ lead ∈ field.fragments.head?,
      lead.type.isBoundToPrimitive = false := by decide
  obtain ⟨lineOf, steps_eq, declares⟩ :=
    instanceVariables_declare { naming } node filled unbound
  obtain ⟨owners_declared, -, listeners_declared⟩ : _ ∧ _ ∧ _ := by
    simpa [nodeFields] using declares
  refine ⟨lineOf _, lineOf _, steps_eq, ⟨owners_declared.isWeak, ?_, ?_, owners_declared.names⟩,
    listeners_declared.isWeak, ?_, ?_, listeners_declared.names⟩
  · exact owners_declared.fullType.trans (by decide)
  · exact owners_declared.starred.mpr ⟨"OGNode_Owner", by decide⟩
  · exact listeners_declared.fullType.trans (by decide)
  · exact listeners_declared.unstarred.mpr (Or.inr (Or.inr ⟨"OGListener", by decide⟩))

end Header

end HeaderForge
