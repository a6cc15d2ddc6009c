import HeaderForge.Proofs.Declarations

/-!
# Which units have a header

A unit has a header exactly if every field declares a variable and the value of every primitive
constant is of its declared type. Otherwise the first declaration that breaks a rule decides the
fault, and of the two rules the one about fields comes first.
-/

namespace HeaderForge

/-! ## The rules -/

/-- The values of a primitive type. The type of no result has none, and a text is of no primitive
type. -/
inductive Constant.OfType : Constant → Primitive → Prop
  | boolean (value : Bool) : OfType (.boolean value) .boolean
  | char (value : UInt16) : OfType (.char value) .char
  | byte (value : Int8) : OfType (.byte value) .byte
  | short (value : Int16) : OfType (.short value) .short
  | int (value : Int32) : OfType (.int value) .int
  | long (value : Int64) : OfType (.long value) .long
  | float (value : Binary.Single) : OfType (.float value) .float
  | double (value : Binary.Double) : OfType (.double value) .double

theorem Constant.ofType_iff (value : Constant) (type : Primitive) :
    value.OfType type ↔ value.primitive? = some type := by
  constructor
  · intro typed
    cases typed <;> rfl
  · intro primitive_eq
    cases value <;> cases primitive_eq <;> constructor

theorem Constant.not_ofType_void (value : Constant) : ¬ value.OfType .void := by
  rintro ⟨⟩

theorem Constant.not_ofType_string (text : String) (type : Primitive) :
    ¬ (Constant.string text).OfType type := by
  rintro ⟨⟩

/-- A static final variable of primitive type whose value is not of that type. -/
structure Variable.Mismatch (var : Variable) (type : Primitive) (value : Constant) : Prop where
  /-- Belongs to the type, not to its objects. -/
  isStatic : var.modifiers.isStatic = true
  /-- Cannot be assigned again. -/
  isFinal : var.modifiers.isFinal = true
  /-- The declared type. -/
  declared : var.type.primitive? = some type
  /-- The value. -/
  holds : var.constant = some value
  /-- The value is of another type. -/
  not_ofType : ¬ value.OfType type

/-- The value of the variable is of its declared type if the variable is a primitive constant. -/
def Variable.Consistent (var : Variable) : Prop :=
  ∀ type value, ¬ var.Mismatch type value

/-- Every field declares a variable, and the variables are consistent. -/
def Declaration.Acceptable (declaration : Declaration) : Prop :=
  (∀ field ∈ declaration.fields, field.fragments ≠ []) ∧
    ∀ field ∈ declaration.fields, ∀ var ∈ field.fragments, var.Consistent

namespace Header

/-- The fault with which a declaration is refused. That of an empty field comes before all
mismatches, and of these the first counts, in the order of the fields and their fragments. -/
inductive Refused (context : Context) (declaration : Declaration) : Fault → Prop
  | emptyField {field : Field} (declared : field ∈ declaration.fields)
      (empty : field.fragments = []) :
      Refused context declaration (.emptyField (context.naming.fullName declaration.type))
  | mismatch {before after : List Variable} {var : Variable} {type : Primitive}
      {value : Constant} (filled : ∀ field ∈ declaration.fields, field.fragments ≠ [])
      (fragments : declaration.fields.flatMap Field.fragments = before ++ var :: after)
      (consistent : ∀ earlier ∈ before, earlier.Consistent) (mismatch : var.Mismatch type value) :
      Refused context declaration
        (.constantMismatch (context.naming.fullName declaration.type) var.name type.sourceName
          value.kindName)

/-! ## Faults of variables and declarations -/

theorem primitiveConstant?_eq_some_iff (var : Variable) (type : Primitive) (value : Constant) :
    var.primitiveConstant? = some (type, value) ↔
      var.modifiers.isStatic = true ∧ var.modifiers.isFinal = true ∧
        var.type.primitive? = some type ∧ var.constant = some value := by
  unfold Variable.primitiveConstant?
  cases var.modifiers.isStatic <;> cases var.modifiers.isFinal <;>
    cases var.type.primitive? <;> cases var.constant <;> simp

theorem mismatch?_eq_some_iff (context : Context) (declaring : TypeRef) (var : Variable)
    (fault : Fault) :
    mismatch? context declaring var = some fault ↔
      ∃ type value, var.Mismatch type value ∧
        fault = .constantMismatch (context.naming.fullName declaring) var.name type.sourceName
          value.kindName := by
  constructor
  · intro found
    unfold mismatch? at found
    cases constant_eq : var.primitiveConstant? with
    | none => simp [constant_eq] at found
    | some constant =>
        obtain ⟨type, value⟩ := constant
        obtain ⟨isStatic, isFinal, declared, holds⟩ :=
          (primitiveConstant?_eq_some_iff var type value).mp constant_eq
        by_cases typed : value.primitive? = some type
        · simp [constant_eq, typed] at found
        · simp only [constant_eq, typed, if_false, Option.some.injEq] at found
          have not_ofType : ¬ value.OfType type := fun ofType =>
            typed ((value.ofType_iff type).mp ofType)
          exact ⟨type, value, ⟨isStatic, isFinal, declared, holds, not_ofType⟩, found.symm⟩
  · rintro ⟨type, value, mismatch, rfl⟩
    have constant_eq : var.primitiveConstant? = some (type, value) :=
      (primitiveConstant?_eq_some_iff var type value).mpr
        ⟨mismatch.isStatic, mismatch.isFinal, mismatch.declared, mismatch.holds⟩
    have typed : ¬ value.primitive? = some type := fun primitive_eq =>
      mismatch.not_ofType ((value.ofType_iff type).mpr primitive_eq)
    simp [mismatch?, constant_eq, typed]

theorem mismatch?_eq_none_iff (context : Context) (declaring : TypeRef) (var : Variable) :
    mismatch? context declaring var = none ↔ var.Consistent := by
  rw [Option.eq_none_iff_forall_ne_some]
  constructor
  · intro absent type value mismatch
    exact absent _ ((mismatch?_eq_some_iff context declaring var _).mpr ⟨type, value, mismatch, rfl⟩)
  · intro consistent fault found
    obtain ⟨type, value, mismatch, -⟩ :=
      (mismatch?_eq_some_iff context declaring var fault).mp found
    exact consistent type value mismatch

theorem forall_mem_fragmentsOf {fields : List Field} {property : Variable → Prop} :
    (∀ var ∈ fragmentsOf fields, property var) ↔
      ∀ field ∈ fields, ∀ var ∈ field.fragments, property var := by
  simp only [fragmentsOf, List.mem_flatMap]
  exact ⟨fun all field field_mem var var_mem => all var ⟨field, field_mem, var_mem⟩,
    fun all var ⟨field, field_mem, var_mem⟩ => all field field_mem var var_mem⟩

theorem opening_fault_eq_none_iff (context : Context) (declaration : Declaration) :
    (opening context declaration).fault = none ↔ declaration.Acceptable := by
  rw [opening_fault, Option.or_eq_none_iff, emptyField?_eq_none_iff, List.findSome?_eq_none_iff]
  simp only [mismatch?_eq_none_iff, forall_mem_fragmentsOf]
  rfl

theorem opening_fault_eq_some_iff (context : Context) (declaration : Declaration)
    (fault : Fault) :
    (opening context declaration).fault = some fault ↔ Refused context declaration fault := by
  rw [opening_fault, Option.or_eq_some_iff, emptyField?_eq_none_iff,
    List.findSome?_eq_some_iff]
  constructor
  · rintro (found | ⟨filled, before, var, after, fragments_eq, found, absent⟩)
    · simp only [emptyField?, Option.ite_none_right_eq_some, List.any_eq_true,
        List.isEmpty_iff, Option.some.injEq] at found
      obtain ⟨⟨field, declared, empty⟩, rfl⟩ := found
      exact .emptyField declared empty
    · obtain ⟨type, value, mismatch, rfl⟩ := (mismatch?_eq_some_iff _ _ _ _).mp found
      refine .mismatch filled fragments_eq ?_ mismatch
      exact fun earlier earlier_mem =>
        (mismatch?_eq_none_iff _ _ _).mp (absent earlier earlier_mem)
  · rintro (⟨declared, empty⟩ | ⟨filled, fragments_eq, consistent, mismatch⟩)
    · left
      simp only [emptyField?, Option.ite_none_right_eq_some, List.any_eq_true,
        List.isEmpty_iff, and_true]
      exact ⟨_, declared, empty⟩
    · right
      refine ⟨filled, _, _, _, fragments_eq, ?_, ?_⟩
      · exact (mismatch?_eq_some_iff _ _ _ _).mpr ⟨_, _, mismatch, rfl⟩
      · exact fun earlier earlier_mem =>
          (mismatch?_eq_none_iff _ _ _).mpr (consistent earlier earlier_mem)

/-- Whether a declaration is refused, and for what kind of fault, does not depend on the context. -/
theorem Refused.change_context {context : Context} {declaration : Declaration} {fault : Fault}
    (refused : Refused context declaration fault) (other : Context) :
    ∃ otherFault, Refused other declaration otherFault ∧ otherFault.code = fault.code := by
  cases refused with
  | emptyField declared empty => exact ⟨_, .emptyField declared empty, rfl⟩
  | mismatch filled fragments consistent mismatch =>
      exact ⟨_, .mismatch filled fragments consistent mismatch, rfl⟩

/-! ## Units -/

/-- The first declaration that is not acceptable, with the fault it is refused with. -/
def RefusedFirst (context : Context) (unit : SourceUnit) (fault : Fault) : Prop :=
  ∃ before declaration after, unit.declarations = before ++ declaration :: after ∧
    (∀ earlier ∈ before, earlier.Acceptable) ∧ Refused context declaration fault

theorem generate_ok_iff_acceptable (context : Context) (unit : SourceUnit) :
    (∃ text, generate context unit = .ok text) ↔
      ∀ declaration ∈ unit.declarations, declaration.Acceptable := by
  simp [generate_eq_ok_iff, opening_fault_eq_none_iff]

theorem generate_error_iff_refusedFirst (context : Context) (unit : SourceUnit)
    (fault : Fault) :
    generate context unit = .error fault ↔ RefusedFirst context unit fault := by
  simp only [generate_eq_error_iff, List.findSome?_eq_some_iff, opening_fault_eq_some_iff,
    opening_fault_eq_none_iff, RefusedFirst]
  constructor
  · rintro ⟨before, declaration, after, split, refused, acceptable⟩
    exact ⟨before, declaration, after, split, acceptable, refused⟩
  · rintro ⟨before, declaration, after, split, acceptable, refused⟩
    exact ⟨before, declaration, after, split, refused, acceptable⟩

/-- The kind of a result: that of its fault, or none for a header. -/
def outcomeKind : Except Fault String → Option String
  | .ok _ => none
  | .error fault => some fault.code

theorem outcomeKind_generate (first second : Context) (unit : SourceUnit) :
    outcomeKind (generate first unit) = outcomeKind (generate second unit) := by
  cases result : generate first unit with
  | ok text =>
      have acceptable := (generate_ok_iff_acceptable first unit).mp ⟨text, result⟩
      obtain ⟨otherText, other⟩ := (generate_ok_iff_acceptable second unit).mpr acceptable
      rw [other]
      rfl
  | error fault =>
      obtain ⟨before, declaration, after, split, acceptable, refused⟩ :=
        (generate_error_iff_refusedFirst first unit fault).mp result
      obtain ⟨otherFault, otherRefused, code_eq⟩ := refused.change_context second
      have other : generate second unit = .error otherFault :=
        (generate_error_iff_refusedFirst second unit otherFault).mpr
          ⟨before, declaration, after, split, acceptable, otherRefused⟩
      rw [other]
      exact congrArg some code_eq.symm

/-- A unit has a header exactly if all its declarations are acceptable; the first that is not decides
the fault, whatever the names and settings are. -/
theorem generate_outcome (context : Context) (unit : SourceUnit) :
    ((∃ text, generate context unit = .ok text) ↔
        ∀ declaration ∈ unit.declarations, declaration.Acceptable) ∧
      (∀ fault, generate context unit = .error fault ↔ RefusedFirst context unit fault) ∧
      (∀ declaration,
        (declarationEmission context declaration).fault = (opening context declaration).fault ∧
          ((opening context declaration).fault = none →
            (instanceVariables context declaration.type declaration.fields).fault = none)) ∧
      (∀ other, outcomeKind (generate context unit) = outcomeKind (generate other unit)) ∧
      (∀ value : Constant, ¬ value.OfType .void) ∧
      ∀ text type, ¬ (Constant.string text).OfType type := by
  refine ⟨generate_ok_iff_acceptable context unit, generate_error_iff_refusedFirst context unit,
    ?_, fun other => outcomeKind_generate context other unit, Constant.not_ofType_void,
    Constant.not_ofType_string⟩
  intro declaration
  refine ⟨declarationEmission_fault context declaration, fun sound => ?_⟩
  exact instanceVariables_fault_of_filled context declaration.type
    (fragments_ne_nil_of_opening sound)

end Header

end HeaderForge
