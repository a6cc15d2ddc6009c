import HeaderForge.Proofs.FileScope

/-!
# Numbers and objects of an enum

The constants of an enum show in three lists that are written apart: the enumeration gives their names
numbers, the array has room for an object of each, and macros find the objects in the array by those
names. The lists keep in step, and the enum's own ending keeps the names of the numbers apart from those
of the macros.
-/

namespace HeaderForge

namespace Header

open Page (line lines indented)

/-! ## The lists -/

/-- A name with its number. -/
structure Enumerator where
  /-- The name. -/
  name : String
  /-- The number. -/
  value : Nat
deriving DecidableEq, Repr

/-- The way to the object of a constant. -/
structure ObjectAccess where
  /-- What follows the name of the enum in the name of the macro. -/
  word : String
  /-- The name whose number is the object's place in the array. -/
  index : String
deriving DecidableEq, Repr

/-- The names of constants behind a bare name, numbered in order. -/
def enumerators (bareName : String) (constants : List EnumConstant) : List Enumerator :=
  constants.zipIdx.map fun numbered => ⟨bareName ++ "_" ++ numbered.1.name, numbered.2⟩

/-- The ways to the objects of constants, in order. -/
def objectAccesses (bareName : String) (constants : List EnumConstant) : List ObjectAccess :=
  constants.map fun constant =>
    ⟨Naming.staticName constant.storage, bareName ++ "_" ++ constant.name⟩

/-- The enumeration of the enumerators, if there are any. -/
def enumeratorSteps (bareName : String) (enumerators : List Enumerator) : List Page.Step :=
  if enumerators = [] then []
  else
    line "typedef enum \x7b"
      ++ indented (lines (enumerators.map fun enumerator =>
        enumerator.name ++ " = " ++ toString enumerator.value ++ ","))
      ++ line ("\x7d " ++ bareName ++ ";") ++ [.newline]

/-- The array with room for a number of objects. That for none has an open size. -/
def arrayLine (className : String) (size : Nat) : String :=
  "FOUNDATION_EXPORT " ++ className ++ " *" ++ className ++ "_values["
    ++ (if size = 0 then "" else toString size) ++ "];"

/-- The macro for an object and the macro that reaches it like a static variable. -/
def accessSteps (className : String) (access : ObjectAccess) : List Page.Step :=
  .newline ::
    lines
      ["#define " ++ className ++ "_" ++ access.word ++ " " ++ className ++ "_values["
          ++ access.index ++ "]",
        "J2OBJC_STATIC_FIELD_GETTER(" ++ className ++ ", " ++ access.word ++ ", " ++ className
          ++ " *)"]

/-- What an enum writes between its enumeration and its array. -/
def enumMiddle (context : Context) (declaration : EnumDeclaration) : List Page.Step :=
  docLines declaration.doc ++ deprecatedLine context (isDeprecated declaration.annotations)
    ++ (enumHead context declaration).steps
    ++ lines (enumMethods (context.naming.fullName declaration.type))
    ++ methodsSteps context declaration.methods ++ line endLine
    ++ staticInit context declaration.type declaration.methods

/-- What an enum writes after the macros of its constants. -/
def enumEnd (context : Context) (declaration : EnumDeclaration) : List Page.Step :=
  staticVariables context declaration.type declaration.fields
    ++ fieldSetters context declaration.type declaration.fields
    ++ prefixAlias context declaration.type declaration.isTopLevel

theorem enumeration_eq (context : Context) (declaration : EnumDeclaration) :
    enumeration context declaration =
      enumeratorSteps (context.naming.bareName declaration.type)
        (enumerators (context.naming.bareName declaration.type) declaration.constants) := by
  unfold enumeration enumeratorSteps enumerators
  cases declaration.constants with
  | nil => rfl
  | cons first rest =>
      simp only [List.isEmpty_cons, Bool.false_eq_true, if_false, List.map_map, List.zipIdx_cons,
        List.map_cons, reduceCtorEq]
      rfl

theorem valuesArray_eq (context : Context) (declaration : EnumDeclaration) :
    valuesArray context declaration =
      .newline ::
        line (arrayLine (context.naming.fullName declaration.type) declaration.constants.length) := by
  unfold valuesArray arrayLine
  cases declaration.constants with
  | nil => rfl
  | cons first rest => rfl

theorem flatMap_constantAccess (context : Context) (declaration : EnumDeclaration) :
    declaration.constants.flatMap (constantAccess context declaration) =
      (objectAccesses (context.naming.bareName declaration.type) declaration.constants).flatMap
        (accessSteps (context.naming.fullName declaration.type)) := by
  rw [objectAccesses, List.flatMap_map]
  apply List.flatMap_congr
  intro constant _
  simp [constantAccess, accessSteps, macroCall, enumeratorName, SupportLibrary.staticGetter,
    String.intercalate_cons_cons, String.append_assoc]

/-- Only the three lists of an enum depend on its constants. -/
theorem enumEmission_withConstants (context : Context) (declaration : EnumDeclaration)
    (constants : List EnumConstant) :
    enumEmission context { declaration with constants } =
      (opening context (.ofEnum declaration)).andThen
        ⟨enumeratorSteps (context.naming.bareName declaration.type)
              (enumerators (context.naming.bareName declaration.type) constants)
            ++ enumMiddle context declaration
            ++ .newline :: line (arrayLine (context.naming.fullName declaration.type)
                constants.length)
            ++ (objectAccesses (context.naming.bareName declaration.type) constants).flatMap
                (accessSteps (context.naming.fullName declaration.type))
            ++ enumEnd context declaration, none⟩ := by
  have body_eq : enumBody context { declaration with constants } =
      enumeration context { declaration with constants } ++ enumMiddle context declaration
        ++ valuesArray context { declaration with constants }
        ++ constants.flatMap (constantAccess context { declaration with constants })
        ++ enumEnd context declaration := by
    simp only [enumBody, enumMiddle, enumEnd, List.append_assoc]
    rfl
  have emission_eq := declarationEmission_eq context (.ofEnum { declaration with constants })
  change enumEmission context { declaration with constants } =
    (opening context (.ofEnum declaration)).andThen
      ⟨enumBody context { declaration with constants }, none⟩ at emission_eq
  rw [emission_eq, body_eq, enumeration_eq, valuesArray_eq,
    flatMap_constantAccess context { declaration with constants }]

/-! ## Names and numbers -/

theorem length_enumerators (bareName : String) (constants : List EnumConstant) :
    (enumerators bareName constants).length = constants.length := by
  rw [enumerators, List.length_map, List.length_zipIdx]

theorem length_objectAccesses (bareName : String) (constants : List EnumConstant) :
    (objectAccesses bareName constants).length = constants.length := by
  rw [objectAccesses, List.length_map]

theorem getElem?_enumerators {bareName : String} {constants : List EnumConstant} {place : Nat}
    {constant : EnumConstant} (found : constants[place]? = some constant) :
    (enumerators bareName constants)[place]? =
      some ⟨bareName ++ "_" ++ constant.name, place⟩ := by
  simp [enumerators, List.getElem?_zipIdx, found]

theorem getElem?_objectAccesses {bareName : String} {constants : List EnumConstant} {place : Nat}
    {constant : EnumConstant} (found : constants[place]? = some constant) :
    (objectAccesses bareName constants)[place]? =
      some ⟨Naming.staticName constant.storage, bareName ++ "_" ++ constant.name⟩ := by
  simp [objectAccesses, found]

theorem map_name_enumerators (bareName : String) (constants : List EnumConstant) :
    (enumerators bareName constants).map Enumerator.name =
      (constants.map EnumConstant.name).map (bareName ++ "_" ++ ·) := by
  have firsts := List.zipIdx_map_fst 0 constants
  rw [enumerators, List.map_map, List.map_map]
  nth_rewrite 2 [← firsts]
  rw [List.map_map]
  rfl

theorem enumeratorSteps_eq_nil_iff (bareName : String) (constants : List EnumConstant) :
    enumeratorSteps bareName (enumerators bareName constants) = [] ↔ constants = [] := by
  have nil_iff : enumerators bareName constants = [] ↔ constants = [] := by
    rw [← List.length_eq_zero_iff, length_enumerators, List.length_eq_zero_iff]
  rw [← nil_iff]
  by_cases empty : enumerators bareName constants = []
  · simp [enumeratorSteps, empty]
  · simp [enumeratorSteps, empty, line]

/-- Where the keys of values are distinct, only the value itself has its key. -/
theorem filter_eq_singleton [DecidableEq α] [DecidableEq β] {key : α → β} {values : List α}
    (distinct : (values.map key).Nodup) {value : α} (value_mem : value ∈ values) :
    values.filter (fun other => key other = key value) = [value] := by
  have same_iff : ∀ other ∈ values, decide (key other = key value) = (other == value) := by
    intro other other_mem
    rw [Bool.eq_iff_iff, decide_eq_true_iff, beq_iff_eq]
    exact ⟨List.inj_on_of_nodup_map distinct other_mem value_mem, congrArg key⟩
  rw [List.filter_congr same_iff, List.filter_beq,
    List.count_eq_one_of_mem distinct.of_map value_mem, List.replicate_one]

theorem filter_enumerators {bareName : String} {constants : List EnumConstant}
    (distinct : (constants.map EnumConstant.name).Nodup) {place : Nat} {constant : EnumConstant}
    (found : constants[place]? = some constant) :
    (enumerators bareName constants).filter
        (fun enumerator => enumerator.name = bareName ++ "_" ++ constant.name) =
      [⟨bareName ++ "_" ++ constant.name, place⟩] := by
  have names_nodup : ((enumerators bareName constants).map Enumerator.name).Nodup := by
    rw [map_name_enumerators]
    exact (map_start_nodup_iff bareName _).mpr distinct
  exact filter_eq_singleton names_nodup (List.mem_of_getElem? (getElem?_enumerators found))

/-- What begins with the name of an enum is no enumerator. -/
theorem name_ne_of_mem_enumerators {bareName className : String}
    (ending : className = bareName ++ SupportLibrary.enumEnding) {constants : List EnumConstant}
    {enumerator : Enumerator} (enumerator_mem : enumerator ∈ enumerators bareName constants)
    (word : String) : enumerator.name ≠ className ++ "_" ++ word := by
  have name_mem := List.mem_map_of_mem (f := Enumerator.name) enumerator_mem
  rw [map_name_enumerators] at name_mem
  obtain ⟨name, -, name_eq⟩ := List.mem_map.mp name_mem
  rw [← name_eq, ending]
  exact (append_ne_of_enumEnding bareName word name).symm

/-- An enum writes its numbers, its array and its macros from one list: the macros at a place belong to
the constant there, whose number is the place. -/
theorem enumEmission_numbers_constants (context : Context) (declaration : EnumDeclaration)
    (enum : declaration.type.sort? = some .enumType)
    (unmapped : Foundation.targetName? declaration.type.qualifiedName = none) :
    let className := context.naming.fullName declaration.type
    let bareName := context.naming.bareName declaration.type
    className = bareName ++ "Enum" ∧ bareName ≠ className ∧
      ∀ constants : List EnumConstant,
        enumEmission context { declaration with constants } =
            (opening context (.ofEnum declaration)).andThen
              ⟨enumeratorSteps bareName (enumerators bareName constants)
                  ++ enumMiddle context declaration
                  ++ .newline :: line (arrayLine className constants.length)
                  ++ (objectAccesses bareName constants).flatMap (accessSteps className)
                  ++ enumEnd context declaration, none⟩ ∧
          (enumeratorSteps bareName (enumerators bareName constants) = [] ↔ constants = []) ∧
          (enumerators bareName constants).length = constants.length ∧
          (objectAccesses bareName constants).length = constants.length ∧
          (∀ place constant, constants[place]? = some constant →
            place < constants.length ∧
              (enumerators bareName constants)[place]? =
                some ⟨bareName ++ "_" ++ constant.name, place⟩ ∧
              (objectAccesses bareName constants)[place]? =
                some ⟨Naming.staticName constant.storage, bareName ++ "_" ++ constant.name⟩ ∧
              ((constants.map EnumConstant.name).Nodup →
                (enumerators bareName constants).filter
                    (fun enumerator => enumerator.name = bareName ++ "_" ++ constant.name) =
                  [⟨bareName ++ "_" ++ constant.name, place⟩])) ∧
          ∀ enumerator ∈ enumerators bareName constants,
            ∀ word, enumerator.name ≠ className ++ "_" ++ word := by
  have ending := (bareName_append_enumEnding
    (endsWith_fullName_of_enum context.naming enum unmapped)).symm
  refine ⟨ending, ?_, fun constants => ?_⟩
  · intro same
    have lengths := congrArg String.length (same.trans ending)
    simp [SupportLibrary.enumEnding] at lengths
  · refine ⟨enumEmission_withConstants context declaration constants,
      enumeratorSteps_eq_nil_iff _ constants, length_enumerators _ constants,
      length_objectAccesses _ constants, ?_, ?_⟩
    · intro place constant found
      exact ⟨(List.getElem?_eq_some_iff.mp found).1, getElem?_enumerators found,
        getElem?_objectAccesses found, fun distinct => filter_enumerators distinct found⟩
    · intro enumerator enumerator_mem word
      exact name_ne_of_mem_enumerators ending enumerator_mem word

/-- An enum inside another type whose own name ends like that of every enum. -/
def trackKind : EnumDeclaration where
  type := .declared "rail" "Track.KindEnum" .enumType
  doc := some "// Kinds"
  isTopLevel := false

/-- Only one of the two endings is left off, and the macro of the second constant leads to the only
number of its name. -/
theorem enumEmission_numbers_constants_of_trackKind :
    let context : Context := { naming := { prefixes := [⟨"rail", "RL"⟩] } }
    let constants : List EnumConstant :=
      [.ofName "MAIN" trackKind.type, .ofName "YARD" trackKind.type]
    let bareName := "RLTrack_KindEnum"
    context.naming.fullName trackKind.type = "RLTrack_KindEnumEnum" ∧
      enumEmission context { trackKind with constants } =
        ⟨enumeratorSteps bareName (enumerators bareName constants)
            ++ enumMiddle context trackKind
            ++ .newline :: line (arrayLine "RLTrack_KindEnumEnum" 2)
            ++ (objectAccesses bareName constants).flatMap (accessSteps "RLTrack_KindEnumEnum")
            ++ enumEnd context trackKind, none⟩ ∧
      (objectAccesses bareName constants)[1]? = some ⟨"YARD", "RLTrack_KindEnum_YARD"⟩ ∧
      (enumerators bareName constants).filter
          (fun enumerator => enumerator.name = "RLTrack_KindEnum_YARD") =
        [⟨"RLTrack_KindEnum_YARD", 1⟩] := by
  intro context constants bareName
  have className_eq : context.naming.fullName trackKind.type = "RLTrack_KindEnumEnum" := by decide
  have bareName_eq : context.naming.bareName trackKind.type = bareName := by decide
  obtain ⟨-, -, of_constants⟩ := enumEmission_numbers_constants context trackKind rfl (by decide)
  obtain ⟨emission_eq, -, -, -, at_place, -⟩ := of_constants constants
  obtain ⟨-, -, access_eq, numbered⟩ := at_place 1 (.ofName "YARD" trackKind.type) rfl
  have sound : opening context (.ofEnum trackKind) = ⟨[], none⟩ := by decide
  rw [className_eq, bareName_eq, sound] at emission_eq
  rw [bareName_eq] at access_eq numbered
  exact ⟨className_eq, emission_eq, access_eq, numbered (by decide)⟩

end Header

end HeaderForge
