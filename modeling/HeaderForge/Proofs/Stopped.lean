import HeaderForge.Proofs.Docs.Weaving
import HeaderForge.Proofs.Fields
import HeaderForge.Proofs.Outcome
import HeaderForge.Proofs.Settled

/-!
# What is written before a fault

A declaration that meets a fault has written nothing but definitions of constants. A field without
variables is found before anything is written, and a constant of another type than its own stops the
definitions right before it.
-/

namespace HeaderForge.Header

open Page (line lines ended indentedLine)

/-! ## Definitions of constants -/

/-- The definitions of those variables that are primitive constants. -/
def definitionLines (context : Context) (declaring : TypeRef) (vars : List Variable) :
    List String :=
  (vars.filter Variable.isPrimitiveConstant).map (definitionLine context declaring)

theorem flatMap_variableDefinition {context : Context} {declaring : TypeRef} {vars : List Variable}
    (sound : ∀ var ∈ vars, mismatch? context declaring var = none) :
    (vars.flatMap fun var => (variableDefinition context declaring var).steps) =
      lines (definitionLines context declaring vars) := by
  have steps_each : ∀ var ∈ vars, (variableDefinition context declaring var).steps =
      if var.isPrimitiveConstant = true then line (definitionLine context declaring var) else [] := by
    intro var var_mem
    rw [variableDefinition_steps (sound var var_mem)]
    simp only [rendering_eq_definition_iff]
  rw [List.flatMap_congr steps_each, flatMap_ite_line, definitionLines]
  simp only [Bool.decide_eq_true]

/-- A constant that is not of its declared type is not defined itself. -/
theorem variableDefinition_of_mismatch {context : Context} {declaring : TypeRef} {var : Variable}
    {fault : Fault} (mismatch : mismatch? context declaring var = some fault) :
    variableDefinition context declaring var = .failed fault := by
  have fault_eq := variableDefinition_fault context declaring var
  rw [mismatch] at fault_eq
  unfold variableDefinition at fault_eq ⊢
  cases constant_eq : var.primitiveConstant? with
  | none => simp [constant_eq] at fault_eq
  | some constant => simp only [mismatch]

/-- Definitions stop right before the first constant that is not of its declared type. No empty line
follows them. -/
theorem constantDefinitions_of_mismatch {context : Context} {declaring : TypeRef}
    {fields : List Field} {before after : List Variable} {var : Variable} {fault : Fault}
    (fragments : fragmentsOf fields = before ++ var :: after)
    (sound : ∀ earlier ∈ before, mismatch? context declaring earlier = none)
    (mismatch : mismatch? context declaring var = some fault) :
    constantDefinitions context declaring fields =
      ⟨lines (definitionLines context declaring before), some fault⟩ := by
  have sound_each : ∀ earlier ∈ before,
      (variableDefinition context declaring earlier).fault = none := by
    intro earlier earlier_mem
    rw [variableDefinition_fault]
    exact sound earlier earlier_mem
  have stopped : (variableDefinition context declaring var).fault = some fault := by
    rw [variableDefinition_fault, mismatch]
  have definitions_eq :
      Emission.forEach (before ++ var :: after) (variableDefinition context declaring) =
        ⟨_, some fault⟩ := Emission.forEach_of_fault sound_each stopped
  rw [flatMap_variableDefinition sound, variableDefinition_of_mismatch mismatch] at definitions_eq
  rw [constantDefinitions, fragments, definitions_eq, Emission.andThen_of_fault rfl]
  simp [Emission.failed]

/-! ## Declarations -/

theorem steps_of_emptyField {context : Context} {declaration : Declaration} {name : String}
    (stopped : (declarationEmission context declaration).fault = some (.emptyField name)) :
    (declarationEmission context declaration).steps = [] := by
  rw [declarationEmission_fault] at stopped
  rw [declarationEmission_eq, Emission.andThen_of_fault stopped]
  have refused := (opening_fault_eq_some_iff context declaration _).mp stopped
  generalize fault_eq : Fault.emptyField name = fault at refused
  cases refused with
  | mismatch => cases fault_eq
  | emptyField declared empty =>
      have check_fault : (checkFields context declaration.type declaration.fields).fault =
          some (.emptyField (context.naming.fullName declaration.type)) := by
        have not_filled : emptyField? context declaration.type declaration.fields ≠ none := by
          rw [ne_eq, emptyField?_eq_none_iff]
          exact fun filled => filled _ declared empty
        simpa [checkFields, emptyField?] using not_filled
      rw [opening, Emission.andThen_of_fault check_fault]
      rfl

theorem steps_of_mismatch (context : Context) {declaration : Declaration}
    {before after : List Variable} {var : Variable} {type : Primitive} {value : Constant}
    (filled : ∀ field ∈ declaration.fields, field.fragments ≠ [])
    (fragments : fragmentsOf declaration.fields = before ++ var :: after)
    (consistent : ∀ earlier ∈ before, earlier.Consistent) (mismatch : var.Mismatch type value) :
    (declarationEmission context declaration).steps =
      lines (definitionLines context declaration.type before) := by
  have found := (mismatch?_eq_some_iff context declaration.type var _).mpr
    ⟨type, value, mismatch, rfl⟩
  have absent : ∀ earlier ∈ before, mismatch? context declaration.type earlier = none :=
    fun earlier earlier_mem =>
      (mismatch?_eq_none_iff context declaration.type earlier).mpr (consistent earlier earlier_mem)
  have check_sound : (checkFields context declaration.type declaration.fields).fault = none :=
    (emptyField?_eq_none_iff context declaration.type declaration.fields).mpr filled
  have definitions_eq := constantDefinitions_of_mismatch fragments absent found
  rw [declarationEmission_eq, opening, Emission.andThen_of_sound check_sound, definitions_eq]
  rfl

/-- A declaration with an empty field leaves any page as it is. One with a mismatched constant writes
the definitions before it and nothing else. -/
theorem run_of_stopped (context : Context) (declaration : Declaration) (page : Page) :
    (∀ name, (declarationEmission context declaration).fault = some (.emptyField name) →
      page.run (declarationEmission context declaration).steps = page) ∧
      ∀ owner field expected found,
        (declarationEmission context declaration).fault =
            some (.constantMismatch owner field expected found) →
          ∃ before var after type value,
            fragmentsOf declaration.fields = before ++ var :: after ∧
              (∀ earlier ∈ before, earlier.Consistent) ∧ var.Mismatch type value ∧
              Fault.constantMismatch owner field expected found =
                .constantMismatch (context.naming.fullName declaration.type) var.name
                  type.sourceName value.kindName ∧
              page.run (declarationEmission context declaration).steps =
                page.run (lines (definitionLines context declaration.type before)) ∧
              (page.run (declarationEmission context declaration).steps).level = page.level ∧
              (page.atLineStart = true →
                page.run (declarationEmission context declaration).steps =
                  ⟨page.indentWidth,
                    page.text ++ ended
                      (((definitionLines context declaration.type before).flatMap
                        (Text.split '\n')).map
                          (indentedLine (Page.spaces page.level page.indentWidth))),
                    page.level, true⟩) := by
  constructor
  · intro name stopped
    rw [steps_of_emptyField stopped, Page.run_nil]
  · intro owner field expected found stopped
    rw [declarationEmission_fault, opening_fault_eq_some_iff] at stopped
    generalize fault_eq : Fault.constantMismatch owner field expected found = fault at stopped
    cases stopped with
    | emptyField => cases fault_eq
    | @mismatch before after var type value filled fragments consistent mismatch =>
        have steps_eq := steps_of_mismatch context filled fragments consistent mismatch
        refine ⟨before, var, after, type, value, fragments, consistent, mismatch, rfl, ?_, ?_, ?_⟩
        · rw [steps_eq]
        · exact (declarationEmission_settled context declaration).keepsLevel page
        · intro atStart
          obtain ⟨indentWidth, text, level, lineStart⟩ := page
          obtain rfl : lineStart = true := atStart
          rw [steps_eq]
          exact (Page.writes_texts _).run_eq text

/-- An enum of the given fields. -/
def oven (fields : List Field) : Declaration :=
  .ofEnum { type := .declared "" "Oven" .enumType, doc := some "// Degrees", fields }

/-- Three constants, of which the last is not of its declared type. -/
def degreeField : Field :=
  let int := TypeRef.ofPrimitive .int
  let constant (name : String) (value : Constant) : Variable :=
    { name, type := int, modifiers := .constant, constant := some value }
  { type := int, modifiers := .constant
    fragments := [constant "LOW" (.int 0), constant "MID" (.int 5), constant "HIGH" (.long 9)] }

/-- Two definitions are written before the fault of the third, and nothing if another field is empty. -/
theorem run_of_stopped_of_oven :
    let page : Page := { indentWidth := 2, text := "// T\n", level := 1 }
    let type := (oven []).type
    (declarationEmission {} (oven [degreeField])).fault =
        some (.constantMismatch "OvenEnum" "HIGH" "int" "long") ∧
      (∃ before var after expected value,
        degreeField.fragments = before ++ var :: after ∧ var.Mismatch expected value ∧
          page.run (declarationEmission {} (oven [degreeField])).steps =
            page.run (lines (definitionLines {} type before))) ∧
      (page.run (declarationEmission {} (oven [degreeField])).steps).text =
        "// T\n  #define OvenEnum_LOW 0\n  #define OvenEnum_MID 5\n" ∧
      page.run
          (declarationEmission {}
            (oven [degreeField, { type := .ofPrimitive .int, fragments := [] }])).steps =
        page := by
  have mismatched : (declarationEmission {} (oven [degreeField])).fault =
      some (.constantMismatch "OvenEnum" "HIGH" "int" "long") := by
    rw [declarationEmission_fault]
    decide
  refine ⟨mismatched, ?_, ?_, ?_⟩
  · obtain ⟨before, var, after, expected, value, fragments, -, mismatch, -, run_eq, -⟩ :=
      (run_of_stopped {} (oven [degreeField]) _).2 _ _ _ _ mismatched
    have fragments_eq : fragmentsOf (oven [degreeField]).fields = degreeField.fragments := rfl
    exact ⟨before, var, after, expected, value, fragments_eq ▸ fragments, mismatch, run_eq⟩
  · rw [declarationEmission_eq]
    decide
  · exact (run_of_stopped {} (oven _) _).1 "OvenEnum" (by decide)

end HeaderForge.Header
