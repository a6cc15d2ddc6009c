import HeaderForge.Proofs.Fields
import Mathlib.Data.List.Flatten
import Mathlib.Data.List.Nodup
import Mathlib.Data.List.Perm.Subperm

/-!
# Names at file scope

What a declaration names outside the block of its type: constants, the storage of the type, what sets
the type up, and the objects and numbers of an enum. All but the numbers begin with the name of the
type. What follows it is either a name of the source, as it is or with an underscore behind, or a word
of the header's own, and nothing keeps the first and the last apart.
-/

namespace HeaderForge

namespace Declaration

/-- The constants. Only an enum has any. -/
def constants : Declaration → List EnumConstant
  | .ofType _ => []
  | .ofEnum declaration => declaration.constants
  | .ofAnnotationType _ => []

/-- The variables of the fields, and those that hold the constants. -/
def namedVariables (declaration : Declaration) : List Variable :=
  fragmentsOf declaration.fields ++ declaration.constants.map EnumConstant.storage

end Declaration

namespace Header

open Page (line lines)

/-! ## Words behind the name of a type -/

/-- The words for what sets a type up. -/
def initWords (methods : List Method) : List String :=
  "init" :: if haveInitializer methods then ["initialized"] else []

/-- The words that a declaration adds of its own. -/
def setupWords : Declaration → List String
  | .ofType declaration => initWords declaration.methods
  | .ofEnum declaration => initWords declaration.methods ++ ["values"]
  | .ofAnnotationType declaration =>
    if needsClass declaration then initWords declaration.methods else []

/-- The variables that are kept somewhere: those of the type, and the objects of an enum. -/
def keptVariables (declaration : Declaration) : List Variable :=
  storedStatics declaration.fields ++ declaration.constants.map EnumConstant.storage

/-- What follows the name of the type in the names at file scope. -/
def typeWords (declaration : Declaration) : List String :=
  (rendered .definition declaration.fields).map Variable.name
    ++ (keptVariables declaration).map Naming.staticName ++ setupWords declaration

/-- The names that follow the name of the type as they are. -/
def bareNames (declaration : Declaration) : List String :=
  (rendered .definition declaration.fields
    ++ (keptVariables declaration).filter Variable.isEnumConstant).map Variable.name

/-- The names that follow the name of the type with an underscore behind. -/
def markedNames (declaration : Declaration) : List String :=
  ((keptVariables declaration).filter fun var => !var.isEnumConstant).map Variable.name

/-- The names that a declaration introduces outside the block of its type. -/
def fileScopeNames (context : Context) (declaration : Declaration) : List String :=
  (typeWords declaration).map (context.naming.fullName declaration.type ++ "_" ++ ·)
    ++ declaration.constants.map
        (context.naming.bareName declaration.type ++ "_" ++ EnumConstant.name ·)

/-! ## Distinct words -/

theorem initWords_sublist (methods : List Method) :
    (initWords methods).Sublist ["init", "initialized"] := by
  unfold initWords
  cases haveInitializer methods with
  | true => exact .refl _
  | false => decide

theorem setupWords_sublist (declaration : Declaration) :
    (setupWords declaration).Sublist ["init", "initialized", "values"] := by
  have shorter : ["init", "initialized"].Sublist ["init", "initialized", "values"] := by decide
  cases declaration with
  | ofType declaration => exact (initWords_sublist declaration.methods).trans shorter
  | ofEnum declaration => exact (initWords_sublist declaration.methods).append_right ["values"]
  | ofAnnotationType declaration =>
      change (if needsClass declaration then initWords declaration.methods else []).Sublist _
      split
      · exact (initWords_sublist declaration.methods).trans shorter
      · exact List.nil_sublist _

theorem nodup_setupWords (declaration : Declaration) : (setupWords declaration).Nodup :=
  (setupWords_sublist declaration).nodup (by decide)

/-- No word of the header's own ends like a marked name. -/
theorem append_underscore_not_mem_setupWords (declaration : Declaration) (name : String) :
    name ++ "_" ∉ setupWords declaration := by
  intro word_mem
  have none_ends : ∀ word ∈ ["init", "initialized", "values"], word.toList.getLast? ≠ some '_' := by
    decide
  exact none_ends _ ((setupWords_sublist declaration).subset word_mem) (by simp)

/-- No variable is both defined and kept, so a declaration names each at most once. -/
theorem subperm_namedVariables (declaration : Declaration) :
    (rendered .definition declaration.fields ++ keptVariables declaration).Subperm
      declaration.namedVariables := by
  have definitions_eq : rendered .definition declaration.fields =
      (fragmentsOf declaration.fields).filter Variable.isPrimitiveConstant := by
    unfold rendered
    apply List.filter_congr
    intro var _
    rw [Bool.eq_iff_iff, decide_eq_true_iff, rendering_eq_definition_iff]
  have stored_sublist : (storedStatics declaration.fields).Sublist
      ((fragmentsOf declaration.fields).filter fun var => !var.isPrimitiveConstant) :=
    (List.Sublist.flatMap List.filter_sublist Field.fragments).filter _
  have split_perm :=
    List.filter_append_perm Variable.isPrimitiveConstant (fragmentsOf declaration.fields)
  rw [definitions_eq, keptVariables, ← List.append_assoc, Declaration.namedVariables]
  exact (((List.Sublist.refl _).append stored_sublist).subperm.trans split_perm.subperm).append
    (.refl _)

theorem typeWords_perm (declaration : Declaration) :
    (typeWords declaration).Perm
      (bareNames declaration ++ (markedNames declaration).map (· ++ "_")
        ++ setupWords declaration) := by
  have split_perm :=
    (List.filter_append_perm Variable.isEnumConstant (keptVariables declaration)).map
      Naming.staticName
  have bare_eq : ((keptVariables declaration).filter Variable.isEnumConstant).map
      Naming.staticName =
        ((keptVariables declaration).filter Variable.isEnumConstant).map Variable.name := by
    apply List.map_congr_left
    intro var var_mem
    rw [Naming.staticName, if_pos (List.mem_filter.mp var_mem).2]
  have marked_eq : ((keptVariables declaration).filter fun var => !var.isEnumConstant).map
      Naming.staticName = (markedNames declaration).map (· ++ "_") := by
    rw [markedNames, List.map_map]
    apply List.map_congr_left
    intro var var_mem
    have marked : var.isEnumConstant = false := by simpa using (List.mem_filter.mp var_mem).2
    simp [Naming.staticName, marked]
  rw [List.map_append, bare_eq, marked_eq] at split_perm
  have words_perm := (split_perm.symm.append_left
    ((rendered .definition declaration.fields).map Variable.name)).append_right
      (setupWords declaration)
  simpa only [typeWords, bareNames, List.map_append, List.append_assoc] using words_perm

/-- The words are distinct unless a bare name meets a word of the header's own or a marked name with its
underscore. -/
theorem nodup_typeWords_iff {declaration : Declaration}
    (distinct : (declaration.namedVariables.map Variable.name).Nodup) :
    (typeWords declaration).Nodup ↔
      (∀ name ∈ bareNames declaration, name ∉ setupWords declaration) ∧
        ∀ name ∈ bareNames declaration, ∀ marked ∈ markedNames declaration,
          name ≠ marked ++ "_" := by
  have names_perm : (bareNames declaration ++ markedNames declaration).Perm
      ((rendered .definition declaration.fields ++ keptVariables declaration).map
        Variable.name) := by
    rw [bareNames, markedNames, ← List.map_append, List.append_assoc]
    exact ((List.filter_append_perm _ _).append_left _).map _
  have names_nodup : (bareNames declaration ++ markedNames declaration).Nodup := by
    obtain ⟨named, named_perm, named_sublist⟩ := subperm_namedVariables declaration
    rw [names_perm.nodup_iff, ← (named_perm.map Variable.name).nodup_iff]
    exact (named_sublist.map Variable.name).nodup distinct
  obtain ⟨bare_nodup, marked_nodup, -⟩ := List.nodup_append.mp names_nodup
  have words_nodup : ((markedNames declaration).map (· ++ "_")).Nodup :=
    (List.nodup_map_iff fun _ _ => (String.append_left_inj "_").mp).mpr marked_nodup
  rw [(typeWords_perm declaration).nodup_iff, List.nodup_append, List.nodup_append]
  constructor
  · rintro ⟨⟨-, -, bare_marked⟩, -, above_setup⟩
    refine ⟨fun name name_mem word_mem => ?_, fun name name_mem marked marked_mem => ?_⟩
    · exact above_setup name (List.mem_append_left _ name_mem) name word_mem rfl
    · exact bare_marked name name_mem _ (List.mem_map_of_mem marked_mem)
  · rintro ⟨bare_setup, bare_marked⟩
    refine ⟨⟨bare_nodup, words_nodup, ?_⟩, nodup_setupWords declaration, ?_⟩
    · intro name name_mem word word_mem
      obtain ⟨marked, marked_mem, rfl⟩ := List.mem_map.mp word_mem
      exact bare_marked name name_mem marked marked_mem
    · rintro word word_mem _ setup_mem rfl
      rcases List.mem_append.mp word_mem with bare_mem | marked_mem
      · exact bare_setup word bare_mem setup_mem
      · -- A marked name never meets a word of the header's own: those end in letters.
        obtain ⟨marked, -, rfl⟩ := List.mem_map.mp marked_mem
        exact append_underscore_not_mem_setupWords declaration marked setup_mem

/-! ## Numbers of an enum -/

theorem bareName_append_enumEnding {naming : Naming} {type : TypeRef}
    (ends : Text.endsWith (naming.fullName type) SupportLibrary.enumEnding = true) :
    naming.bareName type ++ SupportLibrary.enumEnding = naming.fullName type := by
  rw [Naming.bareName, Text.dropEnding, if_pos ends]
  rw [Text.endsWith, List.isSuffixOf_iff_suffix] at ends
  obtain ⟨front, front_eq⟩ := ends
  apply String.toList_inj.mp
  rw [← front_eq]
  simp

theorem bareName_of_not_endsWith {naming : Naming} {type : TypeRef}
    (ends : Text.endsWith (naming.fullName type) SupportLibrary.enumEnding = false) :
    naming.bareName type = naming.fullName type := by
  rw [Naming.bareName, Text.dropEnding, if_neg (by simp [ends])]

theorem endsWith_fullName_of_enum (naming : Naming) {type : TypeRef}
    (enum : type.sort? = some .enumType)
    (unmapped : Foundation.targetName? type.qualifiedName = none) :
    Text.endsWith (naming.fullName type) SupportLibrary.enumEnding = true := by
  cases type with
  | declared package name sort =>
      obtain rfl : sort = .enumType := Option.some.inj enum
      have name_eq : naming.fullName (.declared package name .enumType) =
          naming.packageWord package ++ Text.replaceChar '.' '_' name
            ++ SupportLibrary.enumEnding := by
        rw [Naming.fullName, unmapped]
        rfl
      rw [name_eq, Text.endsWith, List.isSuffixOf_iff_suffix, String.toList_append]
      exact List.suffix_append _ _
  | primitive package name type => cases enum
  | array package name element => cases enum
  | unbounded package name => cases enum
  | bounded package name bound => cases enum

/-- Behind the same start stand the same names. -/
theorem map_start_nodup_iff (start : String) (names : List String) :
    (names.map (start ++ "_" ++ ·)).Nodup ↔ names.Nodup :=
  List.nodup_map_iff fun _ _ => (String.append_right_inj (start ++ "_")).mp

/-- What begins with the name of an enum goes on after it like no enumerator. -/
theorem append_ne_of_enumEnding (bare word name : String) :
    bare ++ SupportLibrary.enumEnding ++ "_" ++ word ≠ bare ++ "_" ++ name := by
  intro same
  simp only [String.append_assoc, String.append_right_inj] at same
  have heads := congrArg (fun text => text.toList.head?) same
  simp [SupportLibrary.enumEnding] at heads

/-- The enumerators meet the other names only where the name of the type does not end like an enum's. -/
theorem nodup_fileScopeNames_iff (context : Context) {declaration : Declaration}
    (numbered : (declaration.constants.map EnumConstant.name).Nodup) :
    (fileScopeNames context declaration).Nodup ↔
      (typeWords declaration).Nodup ∧
        (Text.endsWith (context.naming.fullName declaration.type) SupportLibrary.enumEnding =
            true ∨
          ∀ constant ∈ declaration.constants, constant.name ∉ typeWords declaration) := by
  have numbers_nodup : (declaration.constants.map
      (context.naming.bareName declaration.type ++ "_" ++ EnumConstant.name ·)).Nodup := by
    have numbers := (map_start_nodup_iff (context.naming.bareName declaration.type) _).mpr numbered
    rwa [List.map_map] at numbers
  rw [fileScopeNames, List.nodup_append, map_start_nodup_iff]
  apply and_congr_right
  intro _
  cases ends : Text.endsWith (context.naming.fullName declaration.type)
      SupportLibrary.enumEnding with
  | true =>
      refine iff_of_true ⟨numbers_nodup, ?_⟩ (.inl rfl)
      intro name name_mem number number_mem
      obtain ⟨word, -, rfl⟩ := List.mem_map.mp name_mem
      obtain ⟨constant, -, rfl⟩ := List.mem_map.mp number_mem
      rw [← bareName_append_enumEnding ends]
      exact append_ne_of_enumEnding _ word constant.name
  | false =>
      rw [bareName_of_not_endsWith ends] at numbers_nodup ⊢
      constructor
      · rintro ⟨-, apart⟩
        refine .inr fun constant constant_mem word_mem => ?_
        exact apart _ (List.mem_map_of_mem word_mem) _ (List.mem_map_of_mem constant_mem) rfl
      · rintro (absent | fresh)
        · cases absent
        · refine ⟨numbers_nodup, ?_⟩
          intro name name_mem number number_mem same
          obtain ⟨word, word_mem, rfl⟩ := List.mem_map.mp name_mem
          obtain ⟨constant, constant_mem, rfl⟩ := List.mem_map.mp number_mem
          rw [String.append_right_inj] at same
          exact fresh constant constant_mem (same ▸ word_mem)

/-! ## Lines that introduce names -/

/-- A line outside the block of a type introduces a name. -/
inductive Introduces : String → String → Prop
  /-- The name stands for a value. -/
  | value (name text : String) : Introduces ("#define " ++ name ++ " " ++ text) name
  /-- The name is that of a variable. -/
  | kept (type name : String) :
    Introduces (SupportLibrary.exportMark ++ " " ++ type ++ nameSeparator type ++ name ++ ";") name
  /-- The name is that of an array. -/
  | array (type name size : String) :
    Introduces
      (SupportLibrary.exportMark ++ " " ++ type ++ nameSeparator type ++ name ++ "[" ++ size
        ++ "];")
      name
  /-- The macro makes the function of the name. -/
  | setup (owner : String) :
    Introduces (macroCall SupportLibrary.staticInit [owner]) (owner ++ "_" ++ "init")
  /-- The name is that of a function that does nothing. -/
  | emptySetup (name : String) :
    Introduces (SupportLibrary.emptyInit ++ " " ++ name ++ "() \x7b\x7d") name
  /-- The name has a number. -/
  | number (name : String) (value : Nat) : Introduces (name ++ " = " ++ toString value ++ ",") name

/-- Some line among the steps introduces the name. -/
def IntroducedBy (steps : List Page.Step) (name : String) : Prop :=
  ∃ text, .write text ∈ steps ∧ Introduces text name

theorem IntroducedBy.mono {first second : List Page.Step} {name : String}
    (introduced : IntroducedBy first name) (subset : first ⊆ second) :
    IntroducedBy second name := by
  obtain ⟨text, text_mem, introduces⟩ := introduced
  exact ⟨text, subset text_mem, introduces⟩

theorem write_mem_lines {text : String} {texts : List String} (text_mem : text ∈ texts) :
    .write text ∈ lines texts :=
  List.mem_flatMap.mpr ⟨text, text_mem, List.mem_cons_self⟩

theorem introducedBy_definitions (context : Context) (declaring : TypeRef) {fields : List Field}
    {var : Variable} (var_mem : var ∈ rendered .definition fields) :
    IntroducedBy (Place.definitions.steps context declaring fields)
      (context.naming.fullName declaring ++ "_" ++ var.name) :=
  ⟨definitionLine context declaring var,
    List.mem_append_left _ (write_mem_lines (List.mem_map_of_mem var_mem)), .value _ _⟩

theorem introducedBy_staticVariables (context : Context) (declaring : TypeRef) {fields : List Field}
    {var : Variable} (var_mem : var ∈ storedStatics fields) :
    IntroducedBy (staticVariables context declaring fields)
      (context.naming.fullName declaring ++ "_" ++ Naming.staticName var) := by
  refine ⟨_, List.mem_flatMap.mpr ⟨var, var_mem,
    List.mem_cons_of_mem _ (write_mem_lines (List.mem_append_left _ List.mem_cons_self))⟩, ?_⟩
  simpa only [String.append_assoc] using Introduces.kept (context.naming.variableType var.type)
    (context.naming.fullName declaring ++ "_" ++ Naming.staticName var)

theorem introducedBy_constantAccess (context : Context) {declaration : EnumDeclaration}
    {constant : EnumConstant} (constant_mem : constant ∈ declaration.constants) :
    IntroducedBy (declaration.constants.flatMap (constantAccess context declaration))
      (context.naming.fullName declaration.type ++ "_" ++ Naming.staticName constant.storage) := by
  refine ⟨_, List.mem_flatMap.mpr ⟨constant, constant_mem,
    List.mem_cons_of_mem _ (write_mem_lines List.mem_cons_self)⟩, ?_⟩
  simpa only [String.append_assoc] using Introduces.value
    (context.naming.fullName declaration.type ++ "_" ++ Naming.staticName constant.storage)
    (context.naming.fullName declaration.type ++ "_values["
      ++ enumeratorName context declaration constant ++ "]")

theorem nameSeparator_pointer (name : String) : nameSeparator (name ++ " *") = "" := by
  have ends : Text.endsWith (name ++ " *") "*" = true := by
    rw [Text.endsWith, List.isSuffixOf_iff_suffix]
    exact ⟨name.toList ++ [' '], by simp⟩
  rw [nameSeparator, if_pos ends]

theorem introducedBy_staticInit (context : Context) (declaring : TypeRef) {methods : List Method}
    {word : String} (word_mem : word ∈ initWords methods) :
    IntroducedBy (staticInit context declaring methods)
      (context.naming.fullName declaring ++ "_" ++ word) := by
  unfold staticInit
  unfold initWords at word_mem
  cases setup : haveInitializer methods with
  | true =>
      simp only [setup, if_true, List.mem_cons, List.not_mem_nil, or_false] at word_mem
      rcases word_mem with rfl | rfl
      · exact ⟨_, List.mem_cons_of_mem _
          (write_mem_lines (List.mem_cons_of_mem _ List.mem_cons_self)), .setup _⟩
      · refine ⟨_, List.mem_cons_of_mem _ (write_mem_lines List.mem_cons_self), ?_⟩
        have text_eq : SupportLibrary.exportMark ++ " BOOL " ++ context.naming.fullName declaring
              ++ "_initialized;" =
            SupportLibrary.exportMark ++ " " ++ "BOOL" ++ nameSeparator "BOOL"
              ++ (context.naming.fullName declaring ++ "_" ++ "initialized") ++ ";" := by
          have separator : nameSeparator "BOOL" = " " := by decide
          apply String.toList_inj.mp
          simp [separator]
        rw [text_eq]
        exact .kept _ _
  | false =>
      simp only [setup, Bool.false_eq_true, if_false, List.mem_singleton] at word_mem
      subst word_mem
      refine ⟨_, List.mem_cons_of_mem _ List.mem_cons_self, ?_⟩
      have text_eq : SupportLibrary.emptyInit ++ " " ++ context.naming.fullName declaring
            ++ "_init() \x7b\x7d" =
          SupportLibrary.emptyInit ++ " " ++ (context.naming.fullName declaring ++ "_" ++ "init")
            ++ "() \x7b\x7d" := by
        apply String.toList_inj.mp
        simp
      rw [text_eq]
      exact .emptySetup _

theorem introducedBy_valuesArray (context : Context) (declaration : EnumDeclaration) :
    IntroducedBy (valuesArray context declaration)
      (context.naming.fullName declaration.type ++ "_" ++ "values") := by
  refine ⟨_, List.mem_cons_of_mem _ List.mem_cons_self, ?_⟩
  have text_eq (name size : String) :
      SupportLibrary.exportMark ++ " " ++ name ++ " *" ++ name ++ "_values[" ++ size ++ "];" =
        SupportLibrary.exportMark ++ " " ++ (name ++ " *") ++ nameSeparator (name ++ " *")
          ++ (name ++ "_" ++ "values") ++ "[" ++ size ++ "];" := by
    rw [nameSeparator_pointer]
    apply String.toList_inj.mp
    simp
  rw [text_eq]
  exact .array _ _ _

theorem introducedBy_enumeration (context : Context) {declaration : EnumDeclaration}
    {constant : EnumConstant} (constant_mem : constant ∈ declaration.constants) :
    IntroducedBy (enumeration context declaration)
      (context.naming.bareName declaration.type ++ "_" ++ constant.name) := by
  obtain ⟨place, place_lt, rfl⟩ := List.mem_iff_getElem.mp constant_mem
  refine ⟨enumeratorLine context declaration (declaration.constants[place], place), ?_, .number _ _⟩
  have nonempty : declaration.constants.isEmpty = false := by
    cases constants_eq : declaration.constants with
    | nil => simp [constants_eq] at place_lt
    | cons first rest => rfl
  have numbered_mem : (declaration.constants[place], place) ∈ declaration.constants.zipIdx := by
    rw [List.mem_iff_getElem]
    exact ⟨place, by simpa using place_lt, by simp⟩
  have line_mem := write_mem_lines
    (List.mem_map_of_mem (f := enumeratorLine context declaration) numbered_mem)
  simp only [enumeration, nonempty, Bool.false_eq_true, if_false, List.mem_append]
  exact .inl (.inl (.inr (List.mem_cons_of_mem _ (List.mem_append_left _ line_mem))))

theorem typeStatics_subset_body (context : Context) (declaration : TypeDeclaration) :
    typeStatics context declaration ⊆ body context (.ofType declaration) := by
  intro step step_mem
  simp [body, typeBody, step_mem]

theorem introducedBy_setupWords (context : Context) {declaration : Declaration} {word : String}
    (word_mem : word ∈ setupWords declaration) :
    IntroducedBy (body context declaration)
      (context.naming.fullName declaration.type ++ "_" ++ word) := by
  cases declaration with
  | ofType declaration =>
      refine ((introducedBy_staticInit context declaration.type word_mem).mono ?_).mono
        (typeStatics_subset_body context declaration)
      intro step step_mem
      unfold typeStatics
      split
      · simp [step_mem]
      · simp [step_mem]
  | ofEnum declaration =>
      rcases List.mem_append.mp word_mem with init_mem | values_mem
      · refine (introducedBy_staticInit context declaration.type init_mem).mono ?_
        intro step step_mem
        simp [body, enumBody, step_mem]
      · rw [List.mem_singleton.mp values_mem]
        refine (introducedBy_valuesArray context declaration).mono ?_
        intro step step_mem
        simp [body, enumBody, step_mem]
  | ofAnnotationType declaration =>
      have needed : needsClass declaration = true := by
        cases needs : needsClass declaration with
        | true => rfl
        | false => simp [setupWords, needs] at word_mem
      have init_mem : word ∈ initWords declaration.methods := by
        simpa [setupWords, needed] using word_mem
      refine (introducedBy_staticInit context declaration.type init_mem).mono ?_
      intro step step_mem
      simp [body, annotationBody, annotationClass, needed, step_mem]

theorem staticVariables_subset_body (context : Context) (declaration : Declaration) :
    staticVariables context declaration.type declaration.fields ⊆ body context declaration := by
  cases declaration with
  | ofType declaration =>
      refine List.Subset.trans ?_ (typeStatics_subset_body context declaration)
      unfold typeStatics
      split
      · exact List.subset_append_right _ _
      · exact List.subset_append_right _ _
  | ofEnum declaration =>
      intro step step_mem
      have step_mem : step ∈ staticVariables context declaration.type declaration.fields := step_mem
      simp [body, enumBody, step_mem]
  | ofAnnotationType declaration =>
      intro step step_mem
      have step_mem : step ∈ staticVariables context declaration.type declaration.fields := step_mem
      have needed : needsClass declaration = true := by
        obtain ⟨var, var_mem, -⟩ := List.mem_flatMap.mp step_mem
        simp [needsClass, List.ne_nil_of_mem var_mem]
      simp [body, annotationBody, annotationClass, needed, step_mem]

theorem introducedBy_constants (context : Context) {declaration : Declaration}
    {constant : EnumConstant} (constant_mem : constant ∈ declaration.constants) :
    IntroducedBy (body context declaration)
        (context.naming.fullName declaration.type ++ "_" ++ Naming.staticName constant.storage) ∧
      IntroducedBy (body context declaration)
        (context.naming.bareName declaration.type ++ "_" ++ constant.name) := by
  cases declaration with
  | ofType declaration => cases constant_mem
  | ofEnum declaration =>
      constructor
      · refine (introducedBy_constantAccess context constant_mem).mono ?_
        intro step step_mem
        rw [List.mem_flatMap] at step_mem
        simp [body, enumBody, step_mem]
      · refine (introducedBy_enumeration context constant_mem).mono ?_
        intro step step_mem
        simp [body, enumBody, step_mem]
  | ofAnnotationType declaration => cases constant_mem

theorem introducedBy_steps {context : Context} {declaration : Declaration}
    (sound : (declarationEmission context declaration).fault = none) :
    ∀ name ∈ fileScopeNames context declaration,
      IntroducedBy (declarationEmission context declaration).steps name := by
  rw [declarationEmission_fault] at sound
  rw [declarationEmission_of_sound sound, opening_steps sound]
  have in_body {name : String} (introduced : IntroducedBy (body context declaration) name) :=
    introduced.mono (List.subset_append_right
      (Place.definitions.steps context declaration.type declaration.fields) _)
  intro name name_mem
  rcases List.mem_append.mp name_mem with word_name | number
  · obtain ⟨word, word_mem, rfl⟩ := List.mem_map.mp word_name
    simp only [typeWords, keptVariables, List.map_append, List.mem_append, List.mem_map] at word_mem
    obtain (⟨var, var_mem, rfl⟩ | ⟨var, var_mem, rfl⟩ | ⟨var, ⟨constant, constant_mem, rfl⟩, rfl⟩) |
      setup_mem := word_mem
    · exact (introducedBy_definitions context declaration.type var_mem).mono
        (List.subset_append_left _ _)
    · exact in_body ((introducedBy_staticVariables context declaration.type var_mem).mono
        (staticVariables_subset_body context declaration))
    · exact in_body (introducedBy_constants context constant_mem).1
    · exact in_body (introducedBy_setupWords context setup_mem)
  · obtain ⟨constant, constant_mem, rfl⟩ := List.mem_map.mp number
    exact in_body (introducedBy_constants context constant_mem).2

/-- A declaration that names no variable or constant twice introduces distinct names at file scope
exactly if no bare name meets a word, a marked name or a number. -/
theorem nodup_fileScopeNames (context : Context) {declaration : Declaration}
    (distinct : (declaration.namedVariables.map Variable.name).Nodup)
    (numbered : (declaration.constants.map EnumConstant.name).Nodup) :
    ((fileScopeNames context declaration).Nodup ↔
      (∀ name ∈ bareNames declaration, name ∉ setupWords declaration) ∧
        (∀ name ∈ bareNames declaration, ∀ marked ∈ markedNames declaration,
          name ≠ marked ++ "_") ∧
        (Text.endsWith (context.naming.fullName declaration.type) SupportLibrary.enumEnding =
            true ∨
          ∀ constant ∈ declaration.constants, constant.name ∉ typeWords declaration)) ∧
      (declaration.type.sort? = some .enumType →
        Foundation.targetName? declaration.type.qualifiedName = none →
          Text.endsWith (context.naming.fullName declaration.type) SupportLibrary.enumEnding =
            true) ∧
      ((declarationEmission context declaration).fault = none →
        ∀ name ∈ fileScopeNames context declaration,
          IntroducedBy (declarationEmission context declaration).steps name) := by
  refine ⟨?_, endsWith_fullName_of_enum context.naming, introducedBy_steps⟩
  rw [nodup_fileScopeNames_iff context numbered, nodup_typeWords_iff distinct, and_assoc]

/-- An enum with two constants, a defined limit, and a counter that is kept. -/
def signal : Declaration :=
  let type := TypeRef.declared "rail" "Signal" .enumType
  let int := TypeRef.ofPrimitive .int
  .ofEnum
    { type
      constants := [.ofName "STOP" type, .ofName "GO" type]
      fields :=
        [{ type := int, modifiers := .constant
           fragments :=
            [{ name := "LIMIT", type := int, modifiers := .constant, constant := some (.int 3) }] },
         { type := int, modifiers := { isStatic := true }
           fragments := [{ name := "count", type := int, modifiers := { isStatic := true } }] }]
      methods :=
        [{ signature :=
            { name := "initialize", sort := .staticInitializer
              returnType := .ofPrimitive .void } }] }

theorem nodup_fileScopeNames_of_signal :
    (fileScopeNames {} signal).Nodup ∧ "RailSignalEnum_initialized" ∈ fileScopeNames {} signal ∧
      "RailSignal_STOP" ∈ fileScopeNames {} signal ∧
      IntroducedBy (declarationEmission {} signal).steps "RailSignalEnum_count_" := by
  have sound : (declarationEmission {} signal).fault = none := by
    rw [declarationEmission_fault]
    decide
  have distinct : (signal.namedVariables.map Variable.name).Nodup := by decide
  obtain ⟨nodup_iff, ends_of_enum, introduced⟩ := nodup_fileScopeNames {} distinct (by decide)
  exact ⟨nodup_iff.mpr ⟨by decide, by decide, .inl (ends_of_enum rfl (by decide))⟩, by decide,
    by decide, introduced sound _ (by decide)⟩

/-- A class with a constant of the given name. -/
def gate (constantName : String) : Declaration :=
  let int := TypeRef.ofPrimitive .int
  .ofType
    { type := .declared "" "Gate" .classType
      fields :=
        [{ type := int, modifiers := .constant
           fragments :=
            [{ name := constantName, type := int, modifiers := .constant
               constant := some (.int 1) }] }] }

/-- A constant may take the name of the function that sets its class up. -/
theorem init_introduced_twice :
    ((gate "init").namedVariables.map Variable.name).Nodup ∧
      (∀ var ∈ (gate "init").namedVariables, var.name ≠ "") ∧
      (∀ field ∈ (gate "init").fields, field.IsUniform) ∧
      Foundation.targetName? (gate "init").type.qualifiedName = none ∧
      ¬(fileScopeNames {} (gate "init")).Nodup := by
  unfold Field.IsUniform
  decide

end Header

end HeaderForge
