import HeaderForge.Proofs.Brackets.Blocks
import HeaderForge.Proofs.Brackets.Literals
import HeaderForge.Proofs.Brackets.Names
import HeaderForge.Proofs.Fields

/-!
# Parts of declarations

What declarations without comments write around their blocks and inside them: quiet lines, as long as
all their words are clean.
-/

namespace HeaderForge

/-- The comment above the declaration. -/
def Declaration.doc : Declaration → Option String
  | ofType declaration => declaration.doc
  | ofEnum declaration => declaration.doc
  | ofAnnotationType declaration => declaration.doc

/-- The comments of the declaration and its members. -/
def Declaration.docs (declaration : Declaration) : List String :=
  declaration.doc.toList ++ declaration.fields.filterMap Field.doc
    ++ declaration.methods.filterMap Method.doc

theorem Declaration.docs_eq_nil_iff (declaration : Declaration) :
    declaration.docs = [] ↔
      declaration.doc = none ∧ (∀ field ∈ declaration.fields, field.doc = none) ∧
        ∀ method ∈ declaration.methods, method.doc = none := by
  simp [docs, List.filterMap_eq_nil_iff]

namespace Header

open Page (Step IsLine line lines indented)

variable {context : Context} {width level : Nat}

/-! ## Lines -/

/-- What a line may end in to be no closing brace, whatever stands before it. -/
def IsEnding (text : String) : Prop := Clean text ∧ text ≠ "" ∧ text ≠ closingBrace

instance : DecidablePred IsEnding := fun text =>
  inferInstanceAs (Decidable (Clean text ∧ text ≠ "" ∧ text ≠ closingBrace))

theorem append_ne_closingBrace (start : String) {ending : String} (nonempty : ending ≠ "")
    (not_brace : ending ≠ closingBrace) : start ++ ending ≠ closingBrace := by
  intro brace_eq
  have chars_eq := congrArg String.toList brace_eq
  rw [String.toList_append] at chars_eq
  rcases List.append_eq_cons_iff.mp chars_eq with ⟨-, ending_eq⟩ | ⟨rest, -, rest_eq⟩
  · exact not_brace (String.toList_inj.mp ending_eq)
  · exact nonempty (String.toList_inj.mp (List.append_eq_nil_iff.mp rest_eq.symm).2)

theorem writesQuiet_append {start ending : String} (start_clean : Clean start)
    (is_ending : IsEnding ending) : WritesQuiet width level (line (start ++ ending)) :=
  writesQuiet_line ((clean_append start ending).mpr ⟨start_clean, is_ending.1⟩)
    (append_ne_closingBrace start is_ending.2.1 is_ending.2.2)

theorem writesQuiet_docLines {doc : Option String} (undocumented : doc = none) :
    WritesQuiet width level (docLines doc) := by
  subst undocumented
  exact writesQuiet_nil

theorem writesQuiet_deprecatedLine (deprecated : Bool) :
    WritesQuiet width level (deprecatedLine context deprecated) := by
  unfold deprecatedLine
  split
  · exact writesQuiet_line (by decide) (by decide)
  · exact writesQuiet_nil

theorem writesQuiet_define {rest : String} (single : IsLine rest) :
    WritesQuiet width 0 (line ("#define " ++ rest)) :=
  writesQuiet_start (by decide) (by simp [IsLine]) single

theorem clean_macroCall {name : String} {arguments : List String} (name_clean : Clean name)
    (arguments_clean : AllClean arguments) : Clean (macroCall name arguments) := by
  have list_clean : Clean (", ".intercalate arguments) :=
    clean_intercalate (by decide) arguments_clean
  simp +decide [macroCall, name_clean, list_clean]

theorem writesQuiet_macroCall {name : String} {arguments : List String} (name_clean : Clean name)
    (arguments_clean : AllClean arguments) :
    WritesQuiet width level (line (macroCall name arguments)) :=
  writesQuiet_line (clean_macroCall name_clean arguments_clean)
    (append_ne_closingBrace _ (by decide) (by decide))

theorem clean_nameSeparator (variableType : String) : Clean (nameSeparator variableType) := by
  unfold nameSeparator
  split <;> decide

theorem clean_familyMark (methodName : String) : Clean (familyMark methodName) := by
  unfold familyMark
  split <;> decide

theorem clean_staticName {var : Variable} (clean : AllClean var.words) :
    Clean (Naming.staticName var) := by
  simp only [Variable.words, allClean_cons] at clean
  unfold Naming.staticName
  split
  · exact clean.1
  · simp +decide [clean.1]

/-! ## Around blocks -/

variable (naming_clean : AllClean context.naming.words)

section

variable {declaring : TypeRef} (declaring_clean : AllClean declaring.words)

include naming_clean declaring_clean

theorem writesQuiet_staticInit (methods : List Method) :
    WritesQuiet width level (staticInit context declaring methods) := by
  have name_clean := clean_fullName naming_clean declaring_clean
  refine WritesQuiet.newline_cons ?_
  split
  · apply writesQuiet_lines
    simp only [List.forall_mem_cons]
    refine ⟨writesQuiet_append (by simp +decide [name_clean]) (by decide),
      writesQuiet_macroCall (by decide) (by simpa using name_clean), by simp⟩
  · exact writesQuiet_append (by simp +decide [name_clean]) (by decide)

theorem writesQuiet_boxedSteps : WritesQuiet width level (boxedSteps context declaring) := by
  have name_clean := clean_fullName naming_clean declaring_clean
  unfold boxedSteps
  split
  · exact writesQuiet_nil
  · next type found =>
      split
      · refine (writesQuiet_macroCall (by decide) ?_).newline_cons
        have type_clean : Clean type.capitalName := clean_capitalize (by cases type <;> decide)
        have accessor_clean : Clean type.valueAccessor := by cases type <;> decide
        simp [type_clean, accessor_clean, name_clean]
      · exact writesQuiet_nil

theorem writesQuiet_prefixAlias (isTopLevel : Bool) :
    WritesQuiet width 0 (prefixAlias context declaring isTopLevel) := by
  have name_clean := clean_fullName naming_clean declaring_clean
  have unprefixed_clean := clean_unprefixedName declaring_clean
  unfold prefixAlias
  split
  · apply WritesQuiet.newline_cons
    split
    · rw [String.append_assoc, String.append_assoc]
      exact writesQuiet_define (isLine_of_clean (by simp +decide [name_clean, unprefixed_clean]))
    · exact writesQuiet_append (by simp +decide [name_clean, unprefixed_clean]) (by decide)
  · exact writesQuiet_nil

theorem writesQuiet_staticVariable {var : Variable} (clean : AllClean var.words) :
    WritesQuiet width level (staticVariable context declaring var) := by
  have owner_clean := clean_fullName naming_clean declaring_clean
  have name_clean := clean_staticName clean
  simp only [Variable.words, allClean_cons] at clean
  have type_clean := clean_variableType naming_clean clean.2
  have separator_clean := clean_nameSeparator (context.naming.variableType var.type)
  have arguments_clean : AllClean [context.naming.fullName declaring, Naming.staticName var,
      context.naming.variableType var.type] := by
    simp [owner_clean, name_clean, type_clean]
  apply WritesQuiet.newline_cons
  apply writesQuiet_lines
  simp only [List.forall_mem_append, List.forall_mem_cons]
  refine ⟨⟨writesQuiet_append
      (by simp +decide [owner_clean, name_clean, type_clean, separator_clean]) (by decide),
    writesQuiet_macroCall (by decide) arguments_clean, by simp⟩, ?_⟩
  intro text text_mem
  obtain ⟨mutator, mutator_eq, rfl⟩ := Option.map_eq_some_iff.mp (Option.mem_toList.mp text_mem)
  refine writesQuiet_macroCall ?_ arguments_clean
  unfold staticMutator? at mutator_eq
  split_ifs at mutator_eq <;> obtain rfl := Option.some.inj mutator_eq <;> decide

theorem writesQuiet_staticVariables {fields : List Field}
    (clean : AllClean (fields.flatMap Field.words)) :
    WritesQuiet width level (staticVariables context declaring fields) := by
  apply writesQuiet_flatMap
  intro var var_mem
  obtain ⟨var_mem, -⟩ := List.mem_filter.mp var_mem
  obtain ⟨field, field_mem, var_mem⟩ := List.mem_flatMap.mp var_mem
  have field_clean := allClean_field_of_mem clean (List.mem_filter.mp field_mem).1
  exact writesQuiet_staticVariable naming_clean declaring_clean (field_clean.2 var var_mem)

theorem clean_setterLines {field : Field} (type_clean : AllClean field.type.words)
    (clean : ∀ var ∈ field.fragments, AllClean var.words) :
    ∀ text ∈ setterLines context declaring field, WritesQuiet width level (line text) := by
  have owner_clean := clean_fullName naming_clean declaring_clean
  have variable_clean := clean_variableType naming_clean type_clean
  unfold setterLines
  split
  · simp
  · intro text text_mem
    obtain ⟨var, var_mem, rfl⟩ := List.mem_map.mp text_mem
    have var_clean := clean var (List.mem_filter.mp var_mem).1
    simp only [Variable.words, allClean_cons] at var_clean
    apply writesQuiet_macroCall (by decide)
    simp +decide [owner_clean, variable_clean, Naming.fieldName, var_clean.1]

theorem writesQuiet_fieldSetters {fields : List Field}
    (clean : AllClean (fields.flatMap Field.words)) :
    WritesQuiet width level (fieldSetters context declaring fields) := by
  have lines_quiet : ∀ text ∈ fields.flatMap (setterLines context declaring),
      WritesQuiet width level (line text) := by
    intro text text_mem
    obtain ⟨field, field_mem, text_mem⟩ := List.mem_flatMap.mp text_mem
    have field_clean := allClean_field_of_mem clean field_mem
    exact clean_setterLines naming_clean declaring_clean field_clean.1 field_clean.2 text text_mem
  unfold fieldSetters
  split
  · exact writesQuiet_nil
  · exact (writesQuiet_lines lines_quiet).newline_cons

/-- The definitions of a declaration without a fault. -/
theorem writesQuiet_opening {declaration : Declaration}
    (type_eq : declaration.type = declaring)
    (clean : AllClean (declaration.fields.flatMap Field.words))
    (sound : (opening context declaration).fault = none) :
    WritesQuiet width 0 (opening context declaration).steps := by
  subst type_eq
  have consistent := sound
  rw [opening_fault, Option.or_eq_none_iff, List.findSome?_eq_none_iff] at consistent
  rw [opening_steps sound, Place.steps]
  refine WritesQuiet.append (writesQuiet_lines ?_) ?_
  · intro text text_mem
    obtain ⟨var, var_mem, rfl⟩ := List.mem_map.mp text_mem
    obtain ⟨var_mem, rendering_eq⟩ := List.mem_filter.mp var_mem
    have var_clean := allClean_of_mem_fragmentsOf clean var_mem
    simp only [Variable.words, allClean_cons] at var_clean
    have constant := (rendering_eq_definition_iff var).mp (of_decide_eq_true rendering_eq)
    obtain ⟨⟨type, value⟩, constant_eq⟩ := Option.isSome_iff_exists.mp constant
    have matched := consistent.2 var var_mem
    have value_primitive : value.primitive?.isSome = true := by
      simp only [mismatch?, constant_eq] at matched
      split at matched
      · next same => rw [same]; rfl
      · cases matched
    have name_clean : Clean (context.naming.constantName declaration.type var) := by
      simp +decide [Naming.constantName, clean_fullName naming_clean declaring_clean, var_clean.1]
    rw [definitionLine, constant_of_primitiveConstant? constant_eq, String.append_assoc,
      String.append_assoc]
    apply writesQuiet_define
    simp only [isLine_append]
    exact ⟨isLine_of_clean name_clean, by simp [IsLine], isLine_literal value_primitive⟩
  · split
    · exact writesQuiet_nil
    · exact writesQuiet_newline

end

/-! ## Insides of blocks -/

section

include naming_clean

theorem writesQuiet_variablesLine {field : Field} {lead : Variable}
    (lead_mem : lead ∈ field.fragments) (clean : ∀ var ∈ field.fragments, AllClean var.words) :
    WritesQuiet width level (line (variablesLine context lead field.fragments)) := by
  have lead_clean := clean lead lead_mem
  simp only [Variable.words, allClean_cons] at lead_clean
  have type_clean := clean_specificType naming_clean lead_clean.2
  have names_clean : ∀ mark, Clean mark →
      AllClean (field.fragments.map fun var => mark ++ Naming.fieldName var) := by
    intro mark mark_clean text text_mem
    obtain ⟨var, var_mem, rfl⟩ := List.mem_map.mp text_mem
    have var_clean := clean var var_mem
    simp only [Variable.words, allClean_cons] at var_clean
    simp +decide [mark_clean, Naming.fieldName, var_clean.1]
  refine writesQuiet_append ?_ (by decide)
  simp only [clean_append]
  refine ⟨⟨⟨?_, ?_⟩, by decide⟩, clean_intercalate (by decide) (names_clean _ ?_)⟩
  · split <;> decide
  · split
    · exact clean_dropEnding _ type_clean
    · exact type_clean
  · split <;> decide

theorem writesQuiet_instanceVariables {declaring : TypeRef} {fields : List Field}
    (clean : AllClean (fields.flatMap Field.words))
    (undocumented : ∀ field ∈ fields, field.doc = none)
    (filled : ∀ field ∈ fields, field.fragments ≠ []) :
    WritesQuiet width 0 (instanceVariables context declaring fields).steps := by
  have public_quiet : Quiet SupportLibrary.publicLine :=
    ⟨⟨by decide, by decide, by decide⟩, by decide⟩
  have public_single : IsLine SupportLibrary.publicLine := by simp [IsLine, SupportLibrary.publicLine]
  have field_quiet : ∀ field ∈ instanceFields fields,
      WritesQuiet width 0 (instanceField context declaring field).steps := by
    intro field field_mem
    have field_mem := (List.mem_filter.mp field_mem).1
    have field_clean := allClean_field_of_mem clean field_mem
    unfold instanceField
    cases fragments_eq : field.fragments with
    | nil => exact writesQuiet_nil
    | cons lead rest =>
        have lead_mem : lead ∈ field.fragments := fragments_eq ▸ List.mem_cons_self
        have line_quiet : WritesQuiet width 1
            (line (variablesLine context lead field.fragments)) :=
          writesQuiet_variablesLine naming_clean lead_mem field_clean.2
        rw [fragments_eq] at line_quiet
        exact ((writesQuiet_docLines (undocumented field field_mem)).append line_quiet).indented
  have in_fields : ∀ field ∈ instanceFields fields, field ∈ fields :=
    fun field field_mem => (List.mem_filter.mp field_mem).1
  unfold instanceVariables
  cases instance_eq : instanceFields fields with
  | nil => exact writesQuiet_nil
  | cons first rest =>
      rw [instance_eq] at field_quiet in_fields
      have first_filled := filled first (in_fields first List.mem_cons_self)
      have check : (checkFields context declaring [first]).fault = none := by
        apply (emptyField?_eq_none_iff context declaring [first]).mpr
        simpa using first_filled
      have sound_each : ∀ field ∈ first :: rest,
          (instanceField context declaring field).fault = none := fun field field_mem =>
        instanceField_fault_of_ne_nil context declaring (filled field (in_fields field field_mem))
      simp only [Emission.forEach_of_sound sound_each, Emission.andThen, check]
      exact (writesQuiet_line_outermost public_single public_quiet).append
        (writesQuiet_flatMap field_quiet)

theorem writesQuiet_methodLine {method : Method} {text : String}
    (clean : AllClean method.signature.words) (text_eq : methodLine? context method = some text) :
    WritesQuiet width level (line text) := by
  have selectors_clean := ((allClean_signature_iff _).mp clean).2.1
  have declaration_clean := clean_methodDeclaration naming_clean clean
  unfold methodLine? at text_eq
  split at text_eq
  · cases text_eq
  · split at text_eq
    · next selector selector_eq =>
        obtain rfl := Option.some.inj text_eq
        have selector_clean : Clean selector :=
          selectors_clean selector (by rw [selector_eq]; exact List.mem_singleton_self _)
        have mapped_clean := clean_mappedDeclaration naming_clean clean selector_clean
        exact writesQuiet_append mapped_clean (by decide)
    · obtain rfl := Option.some.inj text_eq
      exact writesQuiet_append (clean_constructorDeclaration naming_clean clean) (by decide)
    · cases text_eq
    · split at text_eq
      · cases text_eq
      · obtain rfl := Option.some.inj text_eq
        have family_clean := clean_familyMark method.signature.name
        have mark_clean : Clean (deprecatedMark context (isDeprecated method.annotations)) := by
          unfold deprecatedMark
          split <;> decide
        exact writesQuiet_append (by simp [declaration_clean, family_clean, mark_clean]) (by decide)

theorem writesQuiet_methodSteps {method : Method} (clean : AllClean method.signature.words)
    (undocumented : method.doc = none) : WritesQuiet width level (methodSteps context method) := by
  unfold methodSteps
  split
  · exact writesQuiet_nil
  · next text text_eq =>
      exact ((writesQuiet_docLines undocumented).append
        (writesQuiet_methodLine naming_clean clean text_eq)).newline_cons

theorem writesQuiet_methodsSteps {methods : List Method}
    (clean : AllClean (methods.flatMap Method.words))
    (undocumented : ∀ method ∈ methods, method.doc = none) :
    WritesQuiet width level (methodsSteps context methods) :=
  writesQuiet_flatMap fun method method_mem =>
    writesQuiet_methodSteps naming_clean (allClean_signature_of_mem clean method_mem)
      (undocumented method method_mem)

/-- The methods and the end of their block begin with a line feed, which also closes a head that was
left open. -/
theorem methodsSteps_blockEnd {methods : List Method}
    (clean : AllClean (methods.flatMap Method.words))
    (undocumented : ∀ method ∈ methods, method.doc = none) :
    ∃ inside, methodsSteps context methods ++ blockEnd = .newline :: (inside ++ line endLine) ∧
      WritesQuiet width 0 inside := by
  induction methods with
  | nil => exact ⟨[], rfl, writesQuiet_nil⟩
  | cons method rest ih =>
      rw [List.forall_mem_cons] at undocumented
      have method_clean := allClean_signature_of_mem clean List.mem_cons_self
      rw [List.flatMap_cons, allClean_append] at clean
      obtain ⟨inside, rest_eq, inside_writes⟩ := ih clean.2 undocumented.2
      have cons_eq : methodsSteps context (method :: rest) ++ blockEnd =
          methodSteps context method ++ (methodsSteps context rest ++ blockEnd) := by
        rw [methodsSteps, List.flatMap_cons, List.append_assoc]
        rfl
      rw [cons_eq, rest_eq, methodSteps]
      cases text_eq : methodLine? context method with
      | none => exact ⟨inside, rfl, inside_writes⟩
      | some text =>
          refine ⟨docLines method.doc ++ line text ++ .newline :: inside, by simp, ?_⟩
          exact ((writesQuiet_docLines undocumented.1).append
            (writesQuiet_methodLine naming_clean method_clean text_eq)).append
            inside_writes.newline_cons

end

end Header

end HeaderForge
