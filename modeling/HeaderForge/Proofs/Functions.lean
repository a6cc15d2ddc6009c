import HeaderForge.Proofs.Methods
import HeaderForge.Proofs.Page
import Mathlib.Algebra.GroupWithZero.Nat

/-!
# Methods that become functions

The main block of a type declares no method that becomes a function. The block of the methods whose
bodies are written elsewhere does not ask, and takes such a method along with the others. So without its
functions a declaration reads the same exactly where that block has nothing to lose.
-/

namespace HeaderForge

/-! ## Deleting from a list -/

/-- Without the deleted values, the whole list is the kept one. -/
inductive Deletion : List α → List α → List α → Prop
  | nothing : Deletion [] [] []
  | keep (value : α) {deleted kept whole : List α} :
      Deletion deleted kept whole → Deletion deleted (value :: kept) (value :: whole)
  | delete (value : α) {deleted kept whole : List α} :
      Deletion deleted kept whole → Deletion (value :: deleted) kept (value :: whole)

namespace Deletion

variable {deleted kept whole : List α}

theorem whole_eq_kept (deletion : Deletion deleted kept whole) (nothing_deleted : deleted = []) :
    whole = kept := by
  induction deletion with
  | nothing => rfl
  | keep value _ ih => rw [ih nothing_deleted]
  | delete value _ _ => cases nothing_deleted

protected theorem filter (deletion : Deletion deleted kept whole) (test : α → Bool) :
    Deletion (deleted.filter test) (kept.filter test) (whole.filter test) := by
  induction deletion with
  | nothing => exact .nothing
  | keep value _ ih =>
      cases passes : test value with
      | true => simpa [passes] using ih.keep value
      | false => simpa [passes] using ih
  | delete value _ ih =>
      cases passes : test value with
      | true => simpa [passes] using ih.delete value
      | false => simpa [passes] using ih

/-- A part of a list misses nothing if none of its values is deleted. -/
theorem filter_eq (deletion : Deletion deleted kept whole) {test : α → Bool}
    (fails : ∀ value ∈ deleted, test value = false) : whole.filter test = kept.filter test := by
  apply (deletion.filter test).whole_eq_kept
  apply List.filter_eq_nil_iff.mpr
  intro value value_mem
  rw [fails value value_mem]
  exact Bool.false_ne_true

theorem any_eq (deletion : Deletion deleted kept whole) {test : α → Bool}
    (fails : ∀ value ∈ deleted, test value = false) : whole.any test = kept.any test := by
  induction deletion with
  | nothing => rfl
  | keep value _ ih => rw [List.any_cons, List.any_cons, ih fails]
  | delete value _ ih =>
      rw [List.forall_mem_cons] at fails
      rw [List.any_cons, fails.1, Bool.false_or, ih fails.2]

end Deletion

/-! ## Line feeds

What steps write depends on the page they are taken on. How many line feeds they write does not. -/

namespace Page

/-- The line feeds that a step writes. -/
def Step.feeds : Step → Nat
  | write text => text.toList.count '\n'
  | newline => 1
  | indent => 0
  | dedent => 0

/-- The line feeds that steps write. -/
def feeds (steps : List Step) : Nat := (steps.map Step.feeds).sum

@[simp] theorem feeds_nil : feeds [] = 0 := rfl

@[simp] theorem feeds_cons (step : Step) (steps : List Step) :
    feeds (step :: steps) = step.feeds + feeds steps :=
  List.sum_cons

@[simp] theorem feeds_append (first second : List Step) :
    feeds (first ++ second) = feeds first + feeds second := by
  rw [feeds, List.map_append, List.sum_append_nat]
  rfl

theorem count_put (page : Page) (c : Char) :
    (page.put c).text.toList.count '\n' = page.text.toList.count '\n' + [c].count '\n' := by
  have spaces : (page.indentation).count '\n' = 0 := by simp [indentation, List.count_replicate]
  unfold put
  split
  · simp [*]
  · split
    · simp [spaces]
    · simp

theorem count_write (page : Page) (text : String) :
    (page.write text).text.toList.count '\n' =
      page.text.toList.count '\n' + text.toList.count '\n' := by
  unfold write
  induction text.toList generalizing page with
  | nil => rfl
  | cons c chars ih =>
      rw [List.foldl_cons, ih, count_put, Nat.add_assoc, ← List.count_append]
      rfl

/-- A page gains the line feeds of the steps, wherever they are taken. -/
theorem count_run (page : Page) (steps : List Step) :
    (page.run steps).text.toList.count '\n' = page.text.toList.count '\n' + feeds steps := by
  induction steps generalizing page with
  | nil => rfl
  | cons step rest ih =>
      have taken : (page.take step).text.toList.count '\n' =
          page.text.toList.count '\n' + step.feeds := by
        cases step with
        | write text => exact count_write page text
        | newline => simp [Step.feeds]
        | indent => rfl
        | dedent => rfl
      rw [run_cons, ih, taken, feeds_cons, Nat.add_assoc]

theorem one_le_feeds_line (text : String) : 1 ≤ feeds (line text) := by
  simp [line, Step.feeds]

/-- With each deleted value at least one line feed is lost, if each value writes one. -/
theorem feeds_add_length_le {deleted kept whole : List α} (deletion : Deletion deleted kept whole)
    {write : α → List Step} (each : ∀ value, 1 ≤ feeds (write value)) :
    feeds (kept.flatMap write) + deleted.length ≤ feeds (whole.flatMap write) := by
  induction deletion with
  | nothing => exact Nat.le_refl 0
  | keep value _ ih =>
      rw [List.flatMap_cons, List.flatMap_cons, feeds_append, feeds_append]
      omega
  | delete value _ ih =>
      rw [List.flatMap_cons, feeds_append, List.length_cons]
      have feeds_value := each value
      omega

end Page

/-! ## Methods of declarations -/

/-- The declaration with other methods. -/
def Declaration.withMethods (methods : List Method) : Declaration → Declaration
  | .ofType declaration => .ofType { declaration with methods }
  | .ofEnum declaration => .ofEnum { declaration with methods }
  | .ofAnnotationType declaration => .ofAnnotationType { declaration with methods }

/-- Whether the declaration has a block for the methods whose bodies are written elsewhere. -/
def Declaration.hasNativeBlock : Declaration → Bool
  | .ofType _ => true
  | .ofEnum _ => false
  | .ofAnnotationType _ => false

/-- The method becomes a function, and does not set up its type. -/
structure Method.BecomesFunction (method : Method) : Prop where
  /-- Becomes a function. -/
  function : method.signature.isFunction = true
  /-- Does not set up its type. -/
  notInitializer : method.signature.sort ≠ .staticInitializer

theorem Method.BecomesFunction.isInMainBlock_eq {method : Method}
    (becomes : method.BecomesFunction) : method.isInMainBlock = false := by
  rw [isInMainBlock, becomes.function]
  rfl

theorem Method.BecomesFunction.isInitializer_eq {method : Method}
    (becomes : method.BecomesFunction) : method.isInitializer = false :=
  beq_eq_false_iff_ne.mpr becomes.notInitializer

namespace Header

open Page (line feeds feeds_append)

/-- A declaration depends on its methods only by those of its blocks and by whether one of them is setup
code. -/
theorem declarationEmission_withMethods_congr (context : Context) (declaration : Declaration)
    {first second : List Method} (same_main : mainMethods first = mainMethods second)
    (same_setup : haveInitializer first = haveInitializer second)
    (same_natives : declaration.hasNativeBlock = true →
      externalNatives first = externalNatives second) :
    declarationEmission context (declaration.withMethods first) =
      declarationEmission context (declaration.withMethods second) := by
  have main_eq : methodsSteps context first = methodsSteps context second := by
    rw [methodsSteps_eq, methodsSteps_eq, mainDeclarations, mainDeclarations, same_main]
  have init_eq (declaring : TypeRef) :
      staticInit context declaring first = staticInit context declaring second := by
    rw [staticInit, staticInit, same_setup]
  cases declaration with
  | ofType declaration =>
      have natives_eq : nativeBlock context { declaration with methods := first } =
          nativeBlock context { declaration with methods := second } := by
        rw [nativeBlock, nativeBlock, same_natives rfl]
      change typeEmission context { declaration with methods := first } =
        typeEmission context { declaration with methods := second }
      simp only [typeEmission, typeStatics_congr context declaration same_setup, natives_eq,
        main_eq]
      rfl
  | ofEnum declaration =>
      change enumEmission context { declaration with methods := first } =
        enumEmission context { declaration with methods := second }
      simp only [enumEmission, main_eq, init_eq]
      rfl
  | ofAnnotationType declaration =>
      change annotationEmission context { declaration with methods := first } =
        annotationEmission context { declaration with methods := second }
      simp only [annotationEmission, annotationClass, init_eq]
      rfl

/-! ## What the block of natives loses -/

/-- With each of its methods that is deleted the block loses a line, and with the last the lines around
them. -/
theorem feeds_nativeDeclarations_lt (context : Context) (declaring : TypeRef)
    {deleted kept whole : List Method} (deletion : Deletion deleted kept whole)
    (deletes : externalNatives deleted ≠ []) :
    feeds (nativeDeclarations context declaring kept) <
      feeds (nativeDeclarations context declaring whole) := by
  have natives :
      Deletion (externalNatives deleted) (externalNatives kept) (externalNatives whole) :=
    deletion.filter Method.isExternalNative
  have fewer := Page.feeds_add_length_le natives fun method =>
    Page.one_le_feeds_line (nativeLine context method)
  have lost := List.length_pos_iff.mpr deletes
  unfold nativeDeclarations
  cases whole_eq : externalNatives whole with
  | nil =>
      rw [whole_eq, List.flatMap_nil, Page.feeds_nil] at fewer
      omega
  | cons first rest =>
      rw [whole_eq] at fewer
      simp only [List.isEmpty_cons, Bool.false_eq_true, if_false, feeds_append]
      cases (externalNatives kept).isEmpty with
      | true =>
          simp only [if_true, Page.feeds_nil, List.cons_append, Page.feeds_cons, Page.Step.feeds]
          omega
      | false =>
          simp only [Bool.false_eq_true, if_false, feeds_append]
          omega

/-! ## Without functions -/

theorem opening_withMethods (context : Context) (methods : List Method)
    (declaration : Declaration) :
    opening context (declaration.withMethods methods) = opening context declaration := by
  cases declaration with
  | ofType declaration => rfl
  | ofEnum declaration => rfl
  | ofAnnotationType declaration => rfl

theorem declarationEmission_withMethods_of_fault {context : Context} {declaration : Declaration}
    (failed : (declarationEmission context declaration).fault ≠ none) (methods : List Method) :
    declarationEmission context (declaration.withMethods methods) =
      opening context declaration := by
  obtain ⟨fault, fault_eq⟩ := Option.ne_none_iff_exists'.mp failed
  rw [declarationEmission_fault] at fault_eq
  rw [declarationEmission_eq, opening_withMethods, Emission.andThen_of_fault fault_eq]

section

variable {deleted kept whole : List Method} (deletion : Deletion deleted kept whole)
  (functions : ∀ method ∈ deleted, method.BecomesFunction)

include deletion functions

theorem mainMethods_eq_of_functions : mainMethods whole = mainMethods kept :=
  deletion.filter_eq fun method method_mem => (functions method method_mem).isInMainBlock_eq

theorem haveInitializer_eq_of_functions : haveInitializer whole = haveInitializer kept :=
  deletion.any_eq fun method method_mem => (functions method method_mem).isInitializer_eq

theorem feeds_typeEmission_lt {context : Context} {declaration : TypeDeclaration}
    (sound : (declarationEmission context (.ofType declaration)).fault = none)
    (deletes : externalNatives deleted ≠ []) :
    feeds (typeEmission context { declaration with methods := kept }).steps <
      feeds (typeEmission context { declaration with methods := whole }).steps := by
  have fewer := feeds_nativeDeclarations_lt context declaration.type deletion deletes
  rw [declarationEmission_fault] at sound
  have main_eq : mainDeclarations context whole = mainDeclarations context kept := by
    rw [mainDeclarations, mainDeclarations, mainMethods_eq_of_functions deletion functions]
  rw [typeEmission_eq_places, typeEmission_eq_places, Emission.andThen_of_sound sound,
    Emission.andThen_of_sound sound, main_eq, haveInitializer_eq_of_functions deletion functions]
  simp only [feeds_append]
  omega

/-- Methods that become functions can be deleted without a trace, unless one of them has its body
written elsewhere and stands in the block of such methods. -/
theorem run_withMethods_eq_iff (context : Context) (declaration : Declaration) (page : Page) :
    (page.run (declarationEmission context (declaration.withMethods whole)).steps).text =
        (page.run (declarationEmission context (declaration.withMethods kept)).steps).text ↔
      (declarationEmission context declaration).fault ≠ none ∨
        declaration.hasNativeBlock = false ∨
        ∀ method ∈ deleted, method.isExternalNative = false := by
  have same_main := mainMethods_eq_of_functions deletion functions
  have same_setup := haveInitializer_eq_of_functions deletion functions
  constructor
  · intro same_text
    cases declaration with
    | ofType declaration =>
        by_cases sound : (declarationEmission context (.ofType declaration)).fault = none
        · refine .inr (.inr fun method method_mem => ?_)
          cases external : method.isExternalNative with
          | false => rfl
          | true =>
              have deletes : externalNatives deleted ≠ [] :=
                List.ne_nil_of_mem (List.mem_filter.mpr ⟨method_mem, external⟩)
              have fewer := feeds_typeEmission_lt deletion functions sound deletes
              have count_eq := congrArg (fun text => text.toList.count '\n') same_text
              simp only [Page.count_run, Declaration.withMethods, declarationEmission] at count_eq
              omega
        · exact .inl sound
    | ofEnum declaration => exact .inr (.inl rfl)
    | ofAnnotationType declaration => exact .inr (.inl rfl)
  · rintro (failed | no_block | internal)
    · -- Before the methods are reached, the fault has stopped the writing.
      rw [declarationEmission_withMethods_of_fault failed,
        declarationEmission_withMethods_of_fault failed]
    · rw [declarationEmission_withMethods_congr context declaration same_main same_setup
        fun has_block => absurd has_block (by simp [no_block])]
    · rw [declarationEmission_withMethods_congr context declaration same_main same_setup
        fun _ => deletion.filter_eq internal]

end

/-- A method without parameters and result that becomes a function. -/
def functionMethod (name : String) (isNative : Bool) : Method :=
  { signature :=
      { name, modifiers := { isNative }, returnType := .ofPrimitive .void, isFunction := true } }

theorem functionMethod_becomesFunction (name : String) (isNative : Bool) :
    (functionMethod name isNative).BecomesFunction :=
  ⟨rfl, nofun⟩

/-- A class without members of its own. -/
def valve : Declaration := .ofType { type := .declared "" "Valve" .classType }

/-- What the class writes with the methods. -/
def valvePage (methods : List Method) : Page :=
  ({ indentWidth := 2 } : Page).run (declarationEmission {} (valve.withMethods methods)).steps

theorem run_withMethods_eq_iff_of_valve :
    let drain := functionMethod "drain" false
    let pour := functionMethod "pour" true
    let turn := commandMethod "turn" false false
    (valvePage [turn, drain, pour]).text = (valvePage [turn, pour]).text ∧
      (valvePage [turn, drain, pour]).text ≠ (valvePage [turn, drain]).text := by
  intro drain pour turn
  have sound : (declarationEmission {} valve).fault = none := by
    rw [declarationEmission_fault]
    decide
  have drain_deleted : Deletion [drain] [turn, pour] [turn, drain, pour] :=
    .keep turn (.delete drain (.keep pour .nothing))
  have pour_deleted : Deletion [pour] [turn, drain] [turn, drain, pour] :=
    .keep turn (.keep drain (.delete pour .nothing))
  have drain_iff := run_withMethods_eq_iff drain_deleted
    (by simpa using functionMethod_becomesFunction "drain" false) {} valve { indentWidth := 2 }
  have pour_iff := run_withMethods_eq_iff pour_deleted
    (by simpa using functionMethod_becomesFunction "pour" true) {} valve { indentWidth := 2 }
  refine ⟨drain_iff.mpr (.inr (.inr (by decide))), fun same_text => ?_⟩
  obtain failed | no_block | internal := pour_iff.mp same_text
  · exact failed sound
  · cases no_block
  · cases internal pour List.mem_cons_self

/-- A function whose body is written elsewhere is declared, and its deletion seen. -/
theorem nativeFunction_shows :
    (functionMethod "pour" true).BecomesFunction ∧
      Deletion [functionMethod "pour" true] [] [functionMethod "pour" true] ∧
      (valvePage [functionMethod "pour" true]).text ≠ (valvePage []).text :=
  ⟨functionMethod_becomesFunction "pour" true, .delete _ .nothing, by decide +kernel⟩

end Header

end HeaderForge
