import HeaderForge.Proofs.Declarations
import Mathlib.Data.List.Basic

/-!
# Where fields show

A variable that a field declares shows in a header as a definition, as storage with macros that reach
it, or as a variable of the objects. The four parts of a header that go through the fields test them
separately, some by the modifiers of the field and some by those of the variable. Where these agree,
the parts take every variable once.
-/

namespace HeaderForge

/-- How a variable that a field declares shows in a header. -/
inductive Rendering where
  /-- A definition, without storage. -/
  | definition
  /-- Storage outside the block of the type, with the macros that reach it. -/
  | storage
  /-- A variable of the objects. -/
  | objectVariable
deriving DecidableEq, Repr

/-- How a variable shows: by whether it belongs to the type, and is a primitive constant. -/
def Variable.rendering (var : Variable) : Rendering :=
  if var.modifiers.isStatic then
    if var.isPrimitiveConstant then .definition else .storage
  else
    .objectVariable

/-- The variables of the field have its type and modifiers. -/
def Field.IsUniform (field : Field) : Prop :=
  ∀ var ∈ field.fragments, var.type = field.type ∧ var.modifiers = field.modifiers

/-- Whether the objects of the type have variables. -/
def Declaration.hasObjects : Declaration → Bool
  | .ofType declaration => !declaration.isInterface
  | .ofEnum _ => true
  | .ofAnnotationType _ => false

/-- The declaration with other fields. -/
def Declaration.withFields (fields : List Field) : Declaration → Declaration
  | .ofType declaration => .ofType { declaration with fields }
  | .ofEnum declaration => .ofEnum { declaration with fields }
  | .ofAnnotationType declaration => .ofAnnotationType { declaration with fields }

@[simp] theorem Declaration.withFields_fields (fields : List Field) (declaration : Declaration) :
    (declaration.withFields fields).fields = fields := by
  cases declaration with
  | ofType declaration => rfl
  | ofEnum declaration => rfl
  | ofAnnotationType declaration => rfl

@[simp] theorem Declaration.withFields_type (fields : List Field) (declaration : Declaration) :
    (declaration.withFields fields).type = declaration.type := by
  cases declaration with
  | ofType declaration => rfl
  | ofEnum declaration => rfl
  | ofAnnotationType declaration => rfl

namespace Header

open Page (line lines indented)

/-! ## The renderings -/

/-- The variables that show in one way, in order. -/
def rendered (rendering : Rendering) (fields : List Field) : List Variable :=
  (fragmentsOf fields).filter fun var => var.rendering = rendering

/-- The variables of objects that hold other objects and keep them alive. -/
def settable (fields : List Field) : List Variable :=
  (rendered .objectVariable fields).filter fun var => !var.type.isPrimitive && !var.isWeak

/-- The definition of a variable. -/
def definitionLine (context : Context) (declaring : TypeRef) (var : Variable) : String :=
  "#define " ++ context.naming.constantName declaring var ++ " "
    ++ (var.constant.map literal).getD ""

/-- The macro that sets a variable. -/
def setterLine (context : Context) (declaring : TypeRef) (var : Variable) : String :=
  macroCall SupportLibrary.fieldSetter
    [context.naming.fullName declaring, Naming.fieldName var, context.naming.variableType var.type]

/-- Whether the asterisk of a field's type stands before each of its variables. -/
def hasAsterisk (context : Context) (field : Field) : Bool :=
  needsAsterisk field.type (context.naming.specificType field.type)

/-- What the line of a field has before its variables. -/
def fieldStart (context : Context) (field : Field) : String :=
  let type := context.naming.specificType field.type
  (if field.fragments.head?.any Variable.isWeak then SupportLibrary.weakMark ++ " " else "")
    ++ (if hasAsterisk context field then Text.dropEnding " *" type else type) ++ " "

/-- A variable of the objects, as the line of its field declares it. -/
def declarator (context : Context) (field : Field) (var : Variable) : String :=
  (if hasAsterisk context field then "*" else "") ++ Naming.fieldName var

/-- The line of a field, with a declarator for each of its variables. -/
def fieldLine (context : Context) (field : Field) : String :=
  fieldStart context field ++ ", ".intercalate (field.fragments.map (declarator context field))
    ++ ";"

/-- A part of a declaration: one that goes through the fields, or any other. -/
inductive Place where
  /-- The definitions of constants. -/
  | definitions
  /-- The variables of the objects. -/
  | objects
  /-- The macros that set variables of the objects. -/
  | setters
  /-- The storage of the type. -/
  | storage
  /-- Steps that have nothing to do with fields. -/
  | other (steps : List Page.Step)
deriving DecidableEq, Repr

/-- What a part writes for the fields. -/
def Place.steps (context : Context) (declaring : TypeRef) (fields : List Field) :
    Place → List Page.Step
  | definitions =>
    lines ((rendered .definition fields).map (definitionLine context declaring))
      ++ if (rendered .definition fields).isEmpty then [] else [.newline]
  | objects =>
    if (instanceFields fields).isEmpty then []
    else
      line SupportLibrary.publicLine
        ++ (instanceFields fields).flatMap fun field =>
            indented (docLines field.doc ++ line (fieldLine context field))
  | setters =>
    if (settable fields).isEmpty then []
    else .newline :: lines ((settable fields).map (setterLine context declaring))
  | storage => (rendered .storage fields).flatMap (staticVariable context declaring)
  | other steps => steps

@[simp] theorem Place.steps_other (context : Context) (declaring : TypeRef) (fields : List Field)
    (steps : List Page.Step) :
    (Place.other steps).steps context declaring fields = steps := rfl

theorem rendered_sublist (rendering : Rendering) (fields : List Field) :
    (rendered rendering fields).Sublist (fragmentsOf fields) :=
  List.filter_sublist

/-- Every variable shows in one way. -/
theorem rendered_perm (fields : List Field) :
    (rendered .definition fields ++ rendered .storage fields
      ++ rendered .objectVariable fields).Perm (fragmentsOf fields) := by
  unfold rendered
  induction fragmentsOf fields with
  | nil => exact .nil
  | cons var rest ih =>
      cases rendering_eq : var.rendering with
      | definition => simpa [List.filter_cons, rendering_eq] using ih
      | storage =>
          simp only [List.filter_cons, rendering_eq, decide_true, if_true, reduceCtorEq,
            decide_false, Bool.false_eq_true, if_false, List.append_assoc, List.cons_append]
          exact List.perm_middle.trans (by simpa using ih)
      | objectVariable =>
          simp only [List.filter_cons, rendering_eq, decide_true, if_true, reduceCtorEq,
            decide_false, Bool.false_eq_true, if_false]
          exact List.perm_middle.trans (by simpa using ih)

/-! ## Definitions -/

theorem isStatic_of_isPrimitiveConstant {var : Variable}
    (constant : var.isPrimitiveConstant = true) : var.modifiers.isStatic = true := by
  unfold Variable.isPrimitiveConstant Variable.primitiveConstant? at constant
  cases static_eq : var.modifiers.isStatic with
  | true => rfl
  | false => simp [static_eq] at constant

theorem rendering_eq_definition_iff (var : Variable) :
    var.rendering = .definition ↔ var.isPrimitiveConstant = true := by
  unfold Variable.rendering
  constructor
  · intro rendering_eq
    cases constant_eq : var.isPrimitiveConstant with
    | true => rfl
    | false => cases static_eq : var.modifiers.isStatic <;> simp [static_eq, constant_eq] at rendering_eq
  · intro constant
    simp [isStatic_of_isPrimitiveConstant constant, constant]

theorem constant_of_primitiveConstant? {var : Variable} {type : Primitive} {value : Constant}
    (constant : var.primitiveConstant? = some (type, value)) : var.constant = some value := by
  unfold Variable.primitiveConstant? at constant
  cases constant_eq : var.constant with
  | none => cases type_eq : var.type.primitive? <;> simp [constant_eq, type_eq] at constant
  | some other =>
      cases type_eq : var.type.primitive? with
      | none => simp [type_eq] at constant
      | some kind =>
          simp only [constant_eq, type_eq, Option.ite_none_right_eq_some, Option.some.injEq,
            Prod.mk.injEq] at constant
          rw [constant.2.2]

theorem variableDefinition_steps {context : Context} {declaring : TypeRef} {var : Variable}
    (sound : mismatch? context declaring var = none) :
    (variableDefinition context declaring var).steps =
      if var.rendering = .definition then line (definitionLine context declaring var) else [] := by
  simp only [rendering_eq_definition_iff, Variable.isPrimitiveConstant, variableDefinition, sound]
  cases constant_eq : var.primitiveConstant? with
  | none => rfl
  | some constant =>
      obtain ⟨type, value⟩ := constant
      simp [definitionLine, definition, constant_of_primitiveConstant? constant_eq]

theorem flatMap_ite_line (test : Variable → Prop) [DecidablePred test] (text : Variable → String)
    (vars : List Variable) :
    (vars.flatMap fun var => if test var then line (text var) else []) =
      lines ((vars.filter fun var => test var).map text) := by
  induction vars with
  | nil => rfl
  | cons var rest ih =>
      rw [List.flatMap_cons, ih, List.filter_cons]
      by_cases passes : test var
      · simp [passes, lines]
      · simp [passes, lines]

/-- The definitions of a declaration without a fault are those of its primitive constants. -/
theorem opening_steps {context : Context} {declaration : Declaration}
    (sound : (opening context declaration).fault = none) :
    (opening context declaration).steps =
      Place.definitions.steps context declaration.type declaration.fields := by
  rw [opening_fault, Option.or_eq_none_iff, List.findSome?_eq_none_iff] at sound
  obtain ⟨filled, consistent⟩ := sound
  have sound_each : ∀ var ∈ fragmentsOf declaration.fields,
      (variableDefinition context declaration.type var).fault = none := by
    intro var var_mem
    rw [variableDefinition_fault]
    exact consistent var var_mem
  have steps_each : ∀ var ∈ fragmentsOf declaration.fields,
      (variableDefinition context declaration.type var).steps =
        if var.rendering = .definition then
          line (definitionLine context declaration.type var) else [] :=
    fun var var_mem => variableDefinition_steps (consistent var var_mem)
  have any_eq : (fragmentsOf declaration.fields).any Variable.isPrimitiveConstant =
      !(rendered .definition declaration.fields).isEmpty := by
    rw [Bool.eq_iff_iff]
    simp [rendered, rendering_eq_definition_iff]
  rw [opening, Emission.andThen_of_sound filled, constantDefinitions,
    Emission.forEach_of_sound sound_each, List.flatMap_congr steps_each, flatMap_ite_line, any_eq]
  simp only [checkFields, Emission.andThen, List.nil_append, Place.steps]
  cases (rendered .definition declaration.fields).isEmpty with
  | true => rfl
  | false => rfl

/-! ## Fields with uniform variables -/

/-- A test of variables that all variables of a field pass alike is a test of the fields. -/
theorem filter_fragmentsOf {fields : List Field} {ofField : Field → Bool}
    {ofVar : Variable → Bool}
    (agree : ∀ field ∈ fields, ∀ var ∈ field.fragments, ofVar var = ofField field) :
    (fragmentsOf fields).filter ofVar = fragmentsOf (fields.filter ofField) := by
  induction fields with
  | nil => rfl
  | cons field rest ih =>
      have rest_eq := ih fun other other_mem => agree other (List.mem_cons_of_mem _ other_mem)
      have field_agrees := agree field List.mem_cons_self
      simp only [fragmentsOf, List.flatMap_cons, List.filter_append] at rest_eq ⊢
      rw [rest_eq, List.filter_congr field_agrees, List.filter_cons]
      cases ofField field with
      | true => simp
      | false => simp

section

variable {fields : List Field} (uniform : ∀ field ∈ fields, field.IsUniform)

include uniform

theorem fragments_instanceFields :
    (instanceFields fields).flatMap Field.fragments = rendered .objectVariable fields := by
  refine (filter_fragmentsOf ?_).symm
  intro field field_mem var var_mem
  rw [Variable.rendering, (uniform field field_mem var var_mem).2]
  cases field.modifiers.isStatic with
  | true => cases var.isPrimitiveConstant <;> rfl
  | false => rfl

theorem storedStatics_eq : storedStatics fields = rendered .storage fields := by
  have statics_eq : fragmentsOf (fields.filter fun field => field.modifiers.isStatic) =
      (fragmentsOf fields).filter fun var => var.modifiers.isStatic := by
    refine (filter_fragmentsOf ?_).symm
    intro field field_mem var var_mem
    rw [(uniform field field_mem var var_mem).2]
  rw [storedStatics, statics_eq, List.filter_filter, rendered]
  apply List.filter_congr
  intro var var_mem
  unfold Variable.rendering
  cases var.modifiers.isStatic <;> cases var.isPrimitiveConstant <;> rfl

theorem variablesLine_eq (context : Context) {field : Field} {lead : Variable}
    {rest : List Variable} (field_mem : field ∈ fields) (fragments : field.fragments = lead :: rest) :
    variablesLine context lead field.fragments = fieldLine context field := by
  have lead_mem : lead ∈ field.fragments := fragments ▸ List.mem_cons_self
  have head_eq : field.fragments.head? = some lead := by rw [fragments, List.head?_cons]
  simp only [variablesLine, fieldLine, fieldStart, hasAsterisk, head_eq,
    Option.any_some, (uniform field field_mem lead lead_mem).1]
  rfl

theorem instanceVariables_steps (context : Context) (declaring : TypeRef)
    (filled : ∀ field ∈ fields, field.fragments ≠ []) :
    (instanceVariables context declaring fields).steps =
      Place.objects.steps context declaring fields := by
  have steps_each : ∀ field ∈ instanceFields fields,
      (instanceField context declaring field).steps =
        indented (docLines field.doc ++ line (fieldLine context field)) := by
    intro field field_mem
    unfold instanceField
    cases fragments_eq : field.fragments with
    | nil => exact absurd fragments_eq (filled_instanceFields filled field field_mem)
    | cons lead rest =>
        rw [← variablesLine_eq uniform context (List.mem_filter.mp field_mem).1 fragments_eq,
          fragments_eq]
  rw [instanceVariables_of_filled context declaring (filled_instanceFields filled), Place.steps,
    List.flatMap_congr steps_each]
  simp only [List.isEmpty_iff]

theorem setterLines_eq (context : Context) (declaring : TypeRef) {field : Field}
    (field_mem : field ∈ fields) :
    setterLines context declaring field =
      (field.fragments.filter fun var =>
          decide (var.rendering = .objectVariable) && (!var.type.isPrimitive && !var.isWeak)).map
        (setterLine context declaring) := by
  have static_eq : ∀ var ∈ field.fragments,
      (decide (var.rendering = .objectVariable) && (!var.type.isPrimitive && !var.isWeak)) =
        (!(field.modifiers.isStatic || field.type.isPrimitive) && !var.isWeak) := by
    intro var var_mem
    obtain ⟨type_eq, modifiers_eq⟩ := uniform field field_mem var var_mem
    rw [Variable.rendering, type_eq, modifiers_eq]
    cases field.modifiers.isStatic with
    | true => cases var.isPrimitiveConstant <;> rfl
    | false => simp
  rw [List.filter_congr static_eq, setterLines]
  cases field.modifiers.isStatic || field.type.isPrimitive with
  | true => simp
  | false =>
      simp only [Bool.false_eq_true, if_false, Bool.not_false, Bool.true_and]
      apply List.map_congr_left
      intro var var_mem
      have type_eq := (uniform field field_mem var (List.mem_filter.mp var_mem).1).1
      rw [setterLine, type_eq]

theorem fieldSetters_eq (context : Context) (declaring : TypeRef) :
    fieldSetters context declaring fields = Place.setters.steps context declaring fields := by
  have setters_eq : fields.flatMap (setterLines context declaring) =
      (settable fields).map (setterLine context declaring) := by
    rw [List.flatMap_congr fun field field_mem => setterLines_eq uniform context declaring field_mem,
      settable, rendered, List.filter_filter, fragmentsOf, List.filter_flatMap, List.map_flatMap]
    apply List.flatMap_congr
    intro field field_mem
    congr 1
    apply List.filter_congr
    intro var var_mem
    exact Bool.and_comm _ _
  unfold fieldSetters
  rw [setters_eq, Place.steps]
  cases settable fields with
  | nil => rfl
  | cons first rest => rfl

theorem staticVariables_eq (context : Context) (declaring : TypeRef) :
    staticVariables context declaring fields = Place.storage.steps context declaring fields := by
  rw [staticVariables, storedStatics_eq uniform, Place.steps]

end

/-! ## Layouts of declarations -/

/-- The parts of a class or interface. -/
def typeLayout (context : Context) (declaration : TypeDeclaration) : List Place :=
  let above :=
    docLines declaration.doc ++ deprecatedLine context (isDeprecated declaration.annotations)
  let block := methodsSteps context declaration.methods ++ blockEnd
  let init := staticInit context declaration.type declaration.methods
  let below :=
    boxedSteps context declaration.type
      ++ prefixAlias context declaration.type declaration.isTopLevel
      ++ nativeBlock context declaration
  if declaration.isInterface then
    [.definitions,
     .other (above ++ protocolHead context declaration ++ block
       ++ companionClass context declaration ++ init),
     .storage, .other below]
  else
    [.definitions, .other (above ++ line (classLine context declaration)), .objects,
     .other (line "\x7d" ++ block ++ init), .setters, .storage, .other below]

/-- The parts of an enum. -/
def enumLayout (context : Context) (declaration : EnumDeclaration) : List Place :=
  [.definitions,
   .other (enumeration context declaration ++ docLines declaration.doc
     ++ deprecatedLine context (isDeprecated declaration.annotations)
     ++ line (enumLine context declaration)),
   .objects,
   .other (line "\x7d" ++ lines (enumMethods (context.naming.fullName declaration.type))
     ++ methodsSteps context declaration.methods ++ line endLine
     ++ staticInit context declaration.type declaration.methods
     ++ valuesArray context declaration
     ++ declaration.constants.flatMap (constantAccess context declaration)),
   .storage, .setters, .other (prefixAlias context declaration.type declaration.isTopLevel)]

/-- The parts of an annotation type, which has a class if something is stored. -/
def annotationLayout (context : Context) (declaration : AnnotationDeclaration) (stores : Bool) :
    List Place :=
  let above := docLines declaration.doc ++ annotationProtocol context declaration
  let classSteps := annotationClass context { declaration with fields := [] }
  let hasClass := declaration.isRuntime || stores
  [.definitions, .other (above ++ if hasClass then classSteps else []), .storage,
   .other (prefixAlias context declaration.type declaration.isTopLevel)]

/-- The parts of a declaration. They depend on its fields only in whether something is stored. -/
def layout (context : Context) (stores : Bool) : Declaration → List Place
  | .ofType declaration => typeLayout context declaration
  | .ofEnum declaration => enumLayout context declaration
  | .ofAnnotationType declaration => annotationLayout context declaration stores

theorem count_layout (context : Context) (stores : Bool) (declaration : Declaration) :
    (layout context stores declaration).count .definitions = 1 ∧
      (layout context stores declaration).count .storage = 1 ∧
      (layout context stores declaration).count .objects =
        (if declaration.hasObjects then 1 else 0) ∧
      (layout context stores declaration).count .setters =
        (if declaration.hasObjects then 1 else 0) := by
  cases declaration with
  | ofType declaration =>
      cases interface_eq : declaration.isInterface with
      | true => simp [layout, typeLayout, Declaration.hasObjects, interface_eq]
      | false => simp [layout, typeLayout, Declaration.hasObjects, interface_eq]
  | ofEnum declaration => simp [layout, enumLayout, Declaration.hasObjects]
  | ofAnnotationType declaration => simp [layout, annotationLayout, Declaration.hasObjects]

section

variable {fields : List Field} (uniform : ∀ field ∈ fields, field.IsUniform)
  (filled : ∀ field ∈ fields, field.fragments ≠ [])

include uniform filled

theorem typeBody_eq_layout (context : Context) (declaration : TypeDeclaration) :
    Place.definitions.steps context declaration.type fields
        ++ typeBody context { declaration with fields } =
      (typeLayout context declaration).flatMap (Place.steps context declaration.type fields) := by
  have head_filled : ∀ field ∈ ({ declaration with fields } : TypeDeclaration).fields,
      field.fragments ≠ [] := filled
  have storage_eq := staticVariables_eq uniform context declaration.type
  have setters_eq := fieldSetters_eq uniform context declaration.type
  have objects_eq := instanceVariables_steps uniform context declaration.type filled
  unfold typeBody typeLayout typeHead typeStatics
  have interface_eq : ({ declaration with fields } : TypeDeclaration).isInterface =
      declaration.isInterface := rfl
  rw [interface_eq]
  cases declaration.isInterface with
  | true =>
      simp only [if_true, storage_eq, List.flatMap_cons, List.flatMap_nil, Place.steps,
        List.append_assoc, List.append_nil]
      rfl
  | false =>
      simp only [Bool.false_eq_true, if_false, classHead_steps context head_filled, storage_eq,
        setters_eq, objects_eq, Place.steps_other, List.flatMap_cons, List.flatMap_nil,
        List.append_assoc, List.append_nil]
      rfl

theorem enumBody_eq_layout (context : Context) (declaration : EnumDeclaration) :
    Place.definitions.steps context declaration.type fields
        ++ enumBody context { declaration with fields } =
      (enumLayout context declaration).flatMap (Place.steps context declaration.type fields) := by
  have head_filled : ∀ field ∈ ({ declaration with fields } : EnumDeclaration).fields,
      field.fragments ≠ [] := filled
  unfold enumBody enumLayout
  simp only [enumHead_steps context head_filled, staticVariables_eq uniform,
    fieldSetters_eq uniform, instanceVariables_steps uniform context declaration.type filled,
    Place.steps_other, List.flatMap_cons, List.flatMap_nil, List.append_assoc, List.append_nil]
  rfl

omit filled in
/-- Without a class there is nothing to store. -/
theorem annotationBody_eq_layout (context : Context) (declaration : AnnotationDeclaration) :
    Place.definitions.steps context declaration.type fields
        ++ annotationBody context { declaration with fields } =
      (annotationLayout context declaration (!(rendered .storage fields).isEmpty)).flatMap
        (Place.steps context declaration.type fields) := by
  have needs_eq : needsClass { declaration with fields } =
      (declaration.isRuntime || !(rendered .storage fields).isEmpty) := by
    rw [needsClass, storedStatics_eq uniform]
    rfl
  have class_eq : annotationClass context { declaration with fields } =
      annotationClass context { declaration with fields := [] }
        ++ Place.storage.steps context declaration.type fields := by
    have stored_nil : staticVariables context declaration.type [] = [] := rfl
    simp only [annotationClass, staticVariables_eq uniform, stored_nil, List.append_assoc,
      List.append_nil]
    rfl
  unfold annotationBody annotationLayout
  rw [needs_eq, class_eq]
  cases class_needed : declaration.isRuntime || !(rendered .storage fields).isEmpty with
  | true =>
      simp only [if_true, Place.steps_other, List.flatMap_cons, List.flatMap_nil,
        List.append_assoc, List.append_nil]
      rfl
  | false =>
      have nothing_stored : rendered .storage fields = [] := by
        simpa using (Bool.or_eq_false_iff.mp class_needed).2
      have storage_nil : Place.storage.steps context declaration.type fields = [] := by
        rw [Place.steps, nothing_stored, List.flatMap_nil]
      simp only [Bool.false_eq_true, if_false, storage_nil, Place.steps_other, List.flatMap_cons,
        List.flatMap_nil, List.append_assoc, List.append_nil, List.nil_append]
      rfl

end

theorem declarationEmission_eq_layout {context : Context} {declaration : Declaration}
    {fields : List Field} (uniform : ∀ field ∈ fields, field.IsUniform)
    (sound : (declarationEmission context (declaration.withFields fields)).fault = none) :
    (declarationEmission context (declaration.withFields fields)).steps =
      (layout context (!(rendered .storage fields).isEmpty) declaration).flatMap
        (Place.steps context declaration.type fields) := by
  rw [declarationEmission_fault] at sound
  have filled : ∀ field ∈ fields, field.fragments ≠ [] := by
    simpa using fragments_ne_nil_of_opening sound
  rw [declarationEmission_of_sound sound]
  change (opening context (declaration.withFields fields)).steps ++ _ = _
  rw [opening_steps sound, Declaration.withFields_fields, Declaration.withFields_type]
  cases declaration with
  | ofType declaration => exact typeBody_eq_layout uniform filled context declaration
  | ofEnum declaration => exact enumBody_eq_layout uniform filled context declaration
  | ofAnnotationType declaration => exact annotationBody_eq_layout uniform context declaration

/-- Every variable of uniform fields is rendered once, as a definition, as storage of the type or as a
variable of the objects, in the order of the fields. -/
theorem declarationEmission_renders_fields (context : Context) (declaration : Declaration) :
    ∃ layout : Bool → List Place,
      (∀ stores,
        (layout stores).count .definitions = 1 ∧ (layout stores).count .storage = 1 ∧
          (layout stores).count .objects = (if declaration.hasObjects then 1 else 0) ∧
          (layout stores).count .setters = (if declaration.hasObjects then 1 else 0)) ∧
        ∀ fields : List Field, (∀ field ∈ fields, field.IsUniform) →
          (declarationEmission context (declaration.withFields fields)).fault = none →
            (declarationEmission context (declaration.withFields fields)).steps =
                (layout (!(rendered .storage fields).isEmpty)).flatMap
                  (Place.steps context declaration.type fields) ∧
              (instanceFields fields).flatMap Field.fragments = rendered .objectVariable fields ∧
              (∀ rendering, (rendered rendering fields).Sublist (fragmentsOf fields)) ∧
              (rendered .definition fields ++ rendered .storage fields
                ++ rendered .objectVariable fields).Perm (fragmentsOf fields) :=
  ⟨fun stores => layout context stores declaration,
    fun stores => count_layout context stores declaration,
    fun fields uniform sound =>
      ⟨declarationEmission_eq_layout uniform sound, fragments_instanceFields uniform,
        fun rendering => rendered_sublist rendering fields, rendered_perm fields⟩⟩

/-- A field of constants, one of stored variables, and one of weak variables of the objects. -/
def gaugeFields : List Field :=
  let int := TypeRef.ofPrimitive .int
  let view := TypeRef.declared "ui" "View" .classType
  [{ type := int, modifiers := .constant
     fragments :=
      [{ name := "MIN", type := int, modifiers := .constant, constant := some (.int 0) },
       { name := "start", type := int, modifiers := .constant }] },
   { type := view, fragments := [{ name := "face", type := view, isWeak := true }] },
   { type := view, modifiers := { isStatic := true }
     fragments := [{ name := "shared", type := view, modifiers := { isStatic := true } }] }]

theorem declarationEmission_renders_fields_of_gauge :
    ∃ layout : Bool → List Place,
      (declarationEmission {}
          (.ofType { type := .declared "ui" "Gauge" .classType, fields := gaugeFields })).steps =
          (layout true).flatMap
            (Place.steps {} (.declared "ui" "Gauge" .classType) gaugeFields) ∧
        (layout true).count .storage = 1 ∧
        (rendered .definition gaugeFields).map Variable.name = ["MIN"] ∧
        (rendered .storage gaugeFields).map Variable.name = ["start", "shared"] ∧
        (rendered .objectVariable gaugeFields).map Variable.name = ["face"] ∧
        settable gaugeFields = [] := by
  obtain ⟨layout, counts, renders⟩ :=
    declarationEmission_renders_fields {} (.ofType { type := .declared "ui" "Gauge" .classType })
  have uniform : ∀ field ∈ gaugeFields, field.IsUniform := by
    unfold Field.IsUniform
    decide
  have sound : (declarationEmission {}
      (.ofType { type := .declared "ui" "Gauge" .classType, fields := gaugeFields })).fault =
        none := by
    rw [declarationEmission_fault]
    decide
  exact ⟨layout, (renders gaugeFields uniform sound).1, (counts true).2.1, by decide, by decide,
    by decide, by decide⟩

end Header

end HeaderForge
