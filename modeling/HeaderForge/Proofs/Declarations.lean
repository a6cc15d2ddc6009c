import HeaderForge.Header.Unit
import HeaderForge.Proofs.Emission

/-!
# The two parts of a declaration

What a declaration writes begins with the definitions of its constants. Only this opening can meet a
fault: once all fields and constants have passed, the body follows as a whole, whatever the form of
the declaration.
-/

namespace HeaderForge.Header

open Page (line)

/-! ## Openings -/

/-- The check of the fields of a declaration, and the definitions of its constants. -/
def opening (context : Context) (declaration : Declaration) : Emission :=
  (checkFields context declaration.type declaration.fields).andThen
    (constantDefinitions context declaration.type declaration.fields)

@[simp] theorem variableDefinition_fault (context : Context) (declaring : TypeRef)
    (var : Variable) :
    (variableDefinition context declaring var).fault = mismatch? context declaring var := by
  unfold variableDefinition
  cases constant_eq : var.primitiveConstant? with
  | none => simp [mismatch?, constant_eq]
  | some constant =>
      cases mismatch_eq : mismatch? context declaring var with
      | none => rfl
      | some fault => rfl

@[simp] theorem constantDefinitions_fault (context : Context) (declaring : TypeRef)
    (fields : List Field) :
    (constantDefinitions context declaring fields).fault =
      (fragmentsOf fields).findSome? (mismatch? context declaring) := by
  simp [constantDefinitions]

theorem opening_fault (context : Context) (declaration : Declaration) :
    (opening context declaration).fault =
      (emptyField? context declaration.type declaration.fields).or
        ((fragmentsOf declaration.fields).findSome? (mismatch? context declaration.type)) := by
  simp [opening, checkFields]

theorem emptyField?_eq_none_iff (context : Context) (declaring : TypeRef) (fields : List Field) :
    emptyField? context declaring fields = none ↔ ∀ field ∈ fields, field.fragments ≠ [] := by
  simp [emptyField?]

/-- A sound opening leaves no field without fragments. -/
theorem fragments_ne_nil_of_opening {context : Context} {declaration : Declaration}
    (sound : (opening context declaration).fault = none) :
    ∀ field ∈ declaration.fields, field.fragments ≠ [] := by
  rw [opening_fault, Option.or_eq_none_iff] at sound
  exact (emptyField?_eq_none_iff context _ _).mp sound.1

/-! ## Variables of objects -/

theorem instanceField_fault_of_ne_nil (context : Context) (declaring : TypeRef) {field : Field}
    (filled : field.fragments ≠ []) : (instanceField context declaring field).fault = none := by
  unfold instanceField
  cases fragments_eq : field.fragments with
  | nil => exact absurd fragments_eq filled
  | cons lead rest => rfl

/-- The block of variables repeats the check of the fields, so it is written in full where every field
of the objects declares a variable. -/
theorem instanceVariables_of_filled (context : Context) (declaring : TypeRef)
    {fields : List Field} (filled : ∀ field ∈ instanceFields fields, field.fragments ≠ []) :
    instanceVariables context declaring fields =
      ⟨if instanceFields fields = [] then []
        else
          line SupportLibrary.publicLine
            ++ (instanceFields fields).flatMap fun field =>
                (instanceField context declaring field).steps,
        none⟩ := by
  unfold instanceVariables
  cases instance_eq : instanceFields fields with
  | nil => rfl
  | cons first rest =>
      rw [instance_eq] at filled
      have check : checkFields context declaring [first] = ⟨[], none⟩ := by
        have no_fault := (emptyField?_eq_none_iff context declaring [first]).mpr
          (by simpa using filled first List.mem_cons_self)
        rw [checkFields, no_fault]
      have sound : ∀ field ∈ first :: rest, (instanceField context declaring field).fault = none :=
        fun field field_mem =>
          instanceField_fault_of_ne_nil context declaring (filled field field_mem)
      simp only [Emission.forEach_of_sound sound, check, List.cons_ne_nil, if_false]
      rfl

theorem filled_instanceFields {fields : List Field}
    (filled : ∀ field ∈ fields, field.fragments ≠ []) :
    ∀ field ∈ instanceFields fields, field.fragments ≠ [] :=
  fun field field_mem => filled field (List.mem_filter.mp field_mem).1

theorem instanceVariables_fault_of_filled (context : Context) (declaring : TypeRef)
    {fields : List Field} (filled : ∀ field ∈ fields, field.fragments ≠ []) :
    (instanceVariables context declaring fields).fault = none := by
  rw [instanceVariables_of_filled context declaring (filled_instanceFields filled)]

/-! ## Heads -/

/-- The line that begins the block of a class. -/
def classLine (context : Context) (declaration : TypeDeclaration) : String :=
  "@interface " ++ context.naming.fullName declaration.type ++ " : "
    ++ superName context declaration
    ++ adopting (declaration.interfaces.map context.naming.fullName) ++ " \x7b"

/-- The line that begins the block of an enum. -/
def enumLine (context : Context) (declaration : EnumDeclaration) : String :=
  "@interface " ++ context.naming.fullName declaration.type ++ " : " ++ SupportLibrary.enumBase
    ++ adopting (enumProtocols context declaration) ++ " \x7b"

theorem classHead_steps (context : Context) {declaration : TypeDeclaration}
    (filled : ∀ field ∈ declaration.fields, field.fragments ≠ []) :
    (classHead context declaration).steps =
      line (classLine context declaration)
        ++ (instanceVariables context declaration.type declaration.fields).steps ++ line "\x7d" := by
  have variables_sound := instanceVariables_fault_of_filled context declaration.type filled
  simp only [classHead, classLine, Emission.andThen, variables_sound]

theorem enumHead_steps (context : Context) {declaration : EnumDeclaration}
    (filled : ∀ field ∈ declaration.fields, field.fragments ≠ []) :
    (enumHead context declaration).steps =
      line (enumLine context declaration)
        ++ (instanceVariables context declaration.type declaration.fields).steps ++ line "\x7d" := by
  have variables_sound := instanceVariables_fault_of_filled context declaration.type filled
  simp only [enumHead, enumLine, Emission.andThen, variables_sound]

/-! ## Bodies -/

/-- What a class or interface writes after its constants. -/
def typeBody (context : Context) (declaration : TypeDeclaration) : List Page.Step :=
  docLines declaration.doc ++ deprecatedLine context (isDeprecated declaration.annotations)
    ++ (typeHead context declaration).steps
    ++ (methodsSteps context declaration.methods ++ blockEnd ++ typeStatics context declaration
      ++ boxedSteps context declaration.type
      ++ prefixAlias context declaration.type declaration.isTopLevel
      ++ nativeBlock context declaration)

/-- What an enum writes after its constants. -/
def enumBody (context : Context) (declaration : EnumDeclaration) : List Page.Step :=
  enumeration context declaration ++ docLines declaration.doc
    ++ deprecatedLine context (isDeprecated declaration.annotations)
    ++ (enumHead context declaration).steps
    ++ (Page.lines (enumMethods (context.naming.fullName declaration.type))
      ++ methodsSteps context declaration.methods ++ line endLine
      ++ staticInit context declaration.type declaration.methods
      ++ valuesArray context declaration
      ++ declaration.constants.flatMap (constantAccess context declaration)
      ++ staticVariables context declaration.type declaration.fields
      ++ fieldSetters context declaration.type declaration.fields
      ++ prefixAlias context declaration.type declaration.isTopLevel)

/-- What an annotation type writes after its constants. -/
def annotationBody (context : Context) (declaration : AnnotationDeclaration) : List Page.Step :=
  docLines declaration.doc ++ annotationProtocol context declaration
    ++ (if needsClass declaration then annotationClass context declaration else [])
    ++ prefixAlias context declaration.type declaration.isTopLevel

/-- What a declaration writes after its constants. -/
def body (context : Context) : Declaration → List Page.Step
  | .ofType declaration => typeBody context declaration
  | .ofEnum declaration => enumBody context declaration
  | .ofAnnotationType declaration => annotationBody context declaration

/-- An emission with a sound part in its middle writes that part's steps. -/
theorem andThen_of_sound_middle {start middle : Emission} {above after : List Page.Step}
    (sound : start.fault = none → middle.fault = none) :
    ((start.andThen ⟨above, none⟩).andThen middle).andThen ⟨after, none⟩ =
      start.andThen ⟨above ++ middle.steps ++ after, none⟩ := by
  cases fault_eq : start.fault with
  | some fault => simp only [Emission.andThen_of_fault fault_eq]
  | none =>
      rw [Emission.eq_of_sound (sound fault_eq), Emission.eq_of_sound fault_eq]
      simp [Emission.andThen, List.append_assoc]

theorem typeHead_fault_of_filled (context : Context) {declaration : TypeDeclaration}
    (filled : ∀ field ∈ declaration.fields, field.fragments ≠ []) :
    (typeHead context declaration).fault = none := by
  unfold typeHead classHead
  split
  · rfl
  · simp [instanceVariables_fault_of_filled context declaration.type filled]

theorem enumHead_fault_of_filled (context : Context) {declaration : EnumDeclaration}
    (filled : ∀ field ∈ declaration.fields, field.fragments ≠ []) :
    (enumHead context declaration).fault = none := by
  simp [enumHead, instanceVariables_fault_of_filled context declaration.type filled]

/-- A declaration is its opening, and its body unless the opening met a fault. -/
theorem declarationEmission_eq (context : Context) (declaration : Declaration) :
    declarationEmission context declaration =
      (opening context declaration).andThen ⟨body context declaration, none⟩ := by
  cases declaration with
  | ofType declaration =>
      apply andThen_of_sound_middle
      intro sound
      exact typeHead_fault_of_filled context
        (@fragments_ne_nil_of_opening context (.ofType declaration) sound)
  | ofEnum declaration =>
      apply andThen_of_sound_middle
      intro sound
      exact enumHead_fault_of_filled context
        (@fragments_ne_nil_of_opening context (.ofEnum declaration) sound)
  | ofAnnotationType declaration => rfl

/-- Only the opening of a declaration can meet a fault. -/
@[simp] theorem declarationEmission_fault (context : Context) (declaration : Declaration) :
    (declarationEmission context declaration).fault = (opening context declaration).fault := by
  rw [declarationEmission_eq, Emission.andThen_fault, Option.or_none]

theorem declarationEmission_of_sound {context : Context} {declaration : Declaration}
    (sound : (opening context declaration).fault = none) :
    declarationEmission context declaration =
      ⟨(opening context declaration).steps ++ body context declaration, none⟩ := by
  rw [declarationEmission_eq, Emission.andThen_of_sound sound]

/-! ## Units -/

/-- The fault of a unit is the first of its declarations'. -/
theorem unitEmission_fault (context : Context) (unit : SourceUnit) :
    (unitEmission context unit).fault =
      unit.declarations.findSome? fun declaration => (opening context declaration).fault := by
  simp [unitEmission, separated]

theorem generate_eq_error_iff (context : Context) (unit : SourceUnit) (fault : Fault) :
    generate context unit = .error fault ↔
      (unit.declarations.findSome? fun declaration => (opening context declaration).fault) =
        some fault := by
  rw [← unitEmission_fault]
  cases fault_eq : (unitEmission context unit).fault with
  | none => simp [generate, fault_eq]
  | some found => simp [generate, fault_eq]

/-- A header is written exactly if all openings are sound. -/
theorem generate_eq_ok_iff (context : Context) (unit : SourceUnit) (text : String) :
    generate context unit = .ok text ↔
      (∀ declaration ∈ unit.declarations, (opening context declaration).fault = none) ∧
        text = Page.render context.settings.indentWidth (unitEmission context unit).steps := by
  rw [← List.findSome?_eq_none_iff, ← unitEmission_fault]
  cases fault_eq : (unitEmission context unit).fault with
  | none => simp [generate, fault_eq, eq_comm]
  | some found => simp [generate, fault_eq]

end HeaderForge.Header
