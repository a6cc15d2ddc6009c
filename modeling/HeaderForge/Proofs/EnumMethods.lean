import HeaderForge.Proofs.Methods
import HeaderForge.Proofs.Statements

/-!
# Methods of enums

The class of an enum has one place for methods, its main block. Like every main block it leaves out the
methods whose bodies are written elsewhere, but an enum has no block of its own for these. So with an
ordinary method an enum reads the same as without it, or has exactly one declaration more.
-/

namespace HeaderForge.Header

open Page (line lines prints_lines prints_newline)

/-! ## The only place -/

/-- What an enum writes after its constants and before its methods. -/
def aboveEnumMethods (context : Context) (declaration : EnumDeclaration) : List Page.Step :=
  enumeration context declaration ++ docLines declaration.doc
    ++ deprecatedLine context (isDeprecated declaration.annotations)
    ++ (enumHead context declaration).steps
    ++ Page.lines (enumMethods (context.naming.fullName declaration.type))

/-- What an enum writes after its methods. -/
def belowEnumMethods (context : Context) (declaration : EnumDeclaration) (hasSetup : Bool) :
    List Page.Step :=
  line endLine
    ++ staticInit context declaration.type (if hasSetup then [setupMethod] else [])
    ++ valuesArray context declaration
    ++ declaration.constants.flatMap (constantAccess context declaration)
    ++ staticVariables context declaration.type declaration.fields
    ++ fieldSetters context declaration.type declaration.fields
    ++ prefixAlias context declaration.type declaration.isTopLevel

theorem staticInit_eq_of_setup (context : Context) (declaring : TypeRef) (methods : List Method) :
    staticInit context declaring methods =
      staticInit context declaring (if haveInitializer methods then [setupMethod] else []) := by
  have setup_eq : haveInitializer (if haveInitializer methods then [setupMethod] else []) =
      haveInitializer methods := by
    cases haveInitializer methods with
    | true => rfl
    | false => rfl
  rw [staticInit, staticInit, setup_eq]

/-- An enum depends on its methods in those of its main block, and in whether one is setup code. -/
theorem enumEmission_withMethods (context : Context) (declaration : EnumDeclaration)
    (methods : List Method) :
    enumEmission context { declaration with methods } =
      (opening context (.ofEnum declaration)).andThen
        ⟨aboveEnumMethods context declaration ++ mainDeclarations context methods
          ++ belowEnumMethods context declaration (haveInitializer methods), none⟩ := by
  have body_eq : enumBody context { declaration with methods } =
      aboveEnumMethods context declaration ++ mainDeclarations context methods
        ++ belowEnumMethods context declaration (haveInitializer methods) := by
    rw [enumBody, methodsSteps_eq, staticInit_eq_of_setup]
    simp only [aboveEnumMethods, belowEnumMethods, List.append_assoc]
    rfl
  rw [← body_eq]
  exact declarationEmission_eq context (.ofEnum { declaration with methods })

theorem aboveEnumMethods_settled (context : Context) (declaration : EnumDeclaration) :
    Page.Settled (aboveEnumMethods context declaration) :=
  enumeration_settled context declaration
    |>.append (docLines_settled declaration.doc)
    |>.append (deprecatedLine_settled context (isDeprecated declaration.annotations))
    |>.append (enumHead_settled context declaration)
    |>.append (Page.settled_lines _)

/-! ## One method more -/

/-- The text that declares an ordinary method in the main block. -/
def ordinaryText (context : Context) (method : Method) : String :=
  "\n" ++ written context (docLines method.doc) ++ ordinaryLine context method ++ "\n"

theorem mainDeclarations_append (context : Context) (first second : List Method) :
    mainDeclarations context (first ++ second) =
      mainDeclarations context first ++ mainDeclarations context second := by
  rw [mainDeclarations, mainMethods, List.filter_append, List.flatMap_append]
  rfl

theorem mainDeclarations_settled (context : Context) (methods : List Method) :
    Page.Settled (mainDeclarations context methods) := by
  rw [← methodsSteps_eq]
  exact methodsSteps_settled context methods

/-- What the main block writes for one ordinary method. -/
theorem written_mainDeclarations_singleton (context : Context) {method : Method}
    (ordinary : method.IsOrdinary) :
    written context (mainDeclarations context [method]) =
      if method.isExternalNative then "" else ordinaryText context method := by
  cases external : method.isExternalNative with
  | true =>
      have left_out : method.isInMainBlock = false := by rw [ordinary.isInMainBlock_eq, external]; rfl
      rw [mainDeclarations, mainMethods, List.filter_cons_of_neg (by rw [left_out]; decide)]
      rfl
  | false =>
      have taken : method.isInMainBlock = true := by rw [ordinary.isInMainBlock_eq, external]; rfl
      have line_eq : mainLine context method = ordinaryLine context method := by
        rw [mainLine, ordinary.unmapped, ordinary.ordinary]
      have steps_eq : mainDeclarations context [method] =
          [.newline] ++ (docLines method.doc ++ line (ordinaryLine context method)) := by
        rw [mainDeclarations, mainMethods, List.filter_cons_of_pos taken, List.filter_nil,
          List.flatMap_singleton, line_eq]
        rfl
      rw [steps_eq, written, Page.closing_newline.settled.render_append,
        (docLines_settled method.doc).render_append, Page.render_line]
      simp only [ordinaryText, written, String.append_assoc]
      rfl

theorem enumEmission_withMethods_of_sound {context : Context} {declaration : EnumDeclaration}
    (sound : (enumEmission context declaration).fault = none) (methods : List Method) :
    enumEmission context { declaration with methods } =
      ⟨(opening context (.ofEnum declaration)).steps ++ aboveEnumMethods context declaration
        ++ mainDeclarations context methods
        ++ belowEnumMethods context declaration (haveInitializer methods), none⟩ := by
  have opening_sound : (opening context (.ofEnum declaration)).fault = none := by
    rw [← declarationEmission_fault]
    exact sound
  rw [enumEmission_withMethods, Emission.andThen_of_sound opening_sound]
  simp only [List.append_assoc]

/-- The text of an enum around the declarations of one of its methods. -/
theorem written_enumEmission_withMethods {context : Context} {declaration : EnumDeclaration}
    (sound : (enumEmission context declaration).fault = none) (before between after : List Method) :
    written context
        (enumEmission context { declaration with methods := before ++ between ++ after }).steps =
      written context
          ((opening context (.ofEnum declaration)).steps ++ aboveEnumMethods context declaration
            ++ mainDeclarations context before)
        ++ written context (mainDeclarations context between)
        ++ written context (mainDeclarations context after
            ++ belowEnumMethods context declaration
              (haveInitializer (before ++ between ++ after))) := by
  have above_settled : Page.Settled
      ((opening context (.ofEnum declaration)).steps ++ aboveEnumMethods context declaration
        ++ mainDeclarations context before) :=
    Page.Settled.append (opening_settled context (.ofEnum declaration))
        (aboveEnumMethods_settled context declaration)
      |>.append (mainDeclarations_settled context before)
  have start_settled := above_settled.append (mainDeclarations_settled context between)
  rw [enumEmission_withMethods_of_sound sound, mainDeclarations_append, mainDeclarations_append]
  unfold written
  rw [← above_settled.render_append, ← start_settled.render_append]
  simp only [List.append_assoc]

theorem haveInitializer_of_ordinary {before after : List Method} {method : Method}
    (ordinary : method.IsOrdinary) :
    haveInitializer (before ++ [method] ++ after) = haveInitializer (before ++ [] ++ after) := by
  have no_setup : method.isInitializer = false := by
    rw [Method.isInitializer, ordinary.ordinary]
    rfl
  simp [haveInitializer, no_setup]

/-- An enum declares an ordinary method as often as it is given, unless its body is written elsewhere:
such a method it declares nowhere. -/
theorem enumEmission_declares_iff (context : Context) (declaration : EnumDeclaration)
    (sound : (enumEmission context declaration).fault = none) :
    (∃ (above : List Page.Step) (below : Bool → List Page.Step), ∀ methods,
      enumEmission context { declaration with methods } =
        ⟨above ++ mainDeclarations context methods ++ below (haveInitializer methods), none⟩) ∧
      ∀ before method after,
        declaration.methods = before ++ [method] ++ after → method.IsOrdinary →
          let text methods := written context (enumEmission context { declaration with methods }).steps
          (mainMethods declaration.methods).count method =
              (if method.isExternalNative then 0 else declaration.methods.count method) ∧
            (∃ above below : String,
              text (before ++ after) = above ++ below ∧
                text declaration.methods =
                  above ++ (if method.isExternalNative then "" else ordinaryText context method)
                    ++ below) ∧
            (text declaration.methods = text (before ++ after) ↔ method.isExternalNative = true) := by
  refine ⟨⟨_, _, enumEmission_withMethods_of_sound sound⟩, ?_⟩
  intro before method after listed ordinary text
  have without_eq : text (before ++ after) = text (before ++ [] ++ after) := by
    rw [List.append_nil]
  have with_text := written_enumEmission_withMethods sound before [method] after
  have without_text := written_enumEmission_withMethods sound before [] after
  rw [written_mainDeclarations_singleton context ordinary, haveInitializer_of_ordinary ordinary,
    ← listed] at with_text
  have nothing : written context (mainDeclarations context []) = "" := rfl
  rw [nothing, String.append_empty] at without_text
  refine ⟨?_, ⟨_, _, without_eq.trans without_text, with_text⟩, ?_⟩
  · cases external : method.isExternalNative with
    | true =>
        apply count_filter_of_fails
        rw [ordinary.isInMainBlock_eq, external]
        rfl
    | false =>
        apply List.count_filter
        rw [ordinary.isInMainBlock_eq, external]
        rfl
  · rw [without_eq]
    simp only [text]
    rw [with_text, without_text, String.append_left_inj]
    cases external : method.isExternalNative with
    | true => simp
    | false => simp [ordinaryText]

/-- An enum with a method of its own, one that comes with its native body, and one that does not. -/
def signalEnum : EnumDeclaration where
  type := .declared "rail" "Signal" .enumType
  constants := [.ofName "STOP" (.declared "rail" "Signal" .enumType)]
  methods :=
    [commandMethod "next" false false, commandMethod "flash" true true,
      commandMethod "poll" true false]

theorem enumEmission_declares_iff_of_signal :
    let text methods := written {} (enumEmission {} { signalEnum with methods }).steps
    let next := commandMethod "next" false false
    let flash := commandMethod "flash" true true
    let poll := commandMethod "poll" true false
    (enumEmission {} signalEnum).fault = none ∧ flash.IsOrdinary ∧ poll.IsOrdinary ∧
      (mainMethods signalEnum.methods).count flash = 1 ∧
      (mainMethods signalEnum.methods).count poll = 0 ∧
      (∃ above below, text [next, poll] = above ++ below ∧
        text [next, flash, poll] = above ++ "\n- (void)flash;\n" ++ below) ∧
      text [next, flash, poll] = text [next, flash] := by
  intro text next flash poll
  have sound : (enumEmission {} signalEnum).fault = none := by decide
  have flash_ordinary : flash.IsOrdinary := ⟨rfl, rfl, rfl, rfl⟩
  have poll_ordinary : poll.IsOrdinary := ⟨rfl, rfl, rfl, rfl⟩
  obtain ⟨-, declared⟩ := enumEmission_declares_iff {} signalEnum sound
  obtain ⟨flash_count, flash_text, -⟩ := declared [next] flash [poll] rfl flash_ordinary
  obtain ⟨poll_count, -, poll_unseen⟩ := declared [next, flash] poll [] rfl poll_ordinary
  have flash_line : ordinaryText {} flash = "\n- (void)flash;\n" := by decide +kernel
  rw [if_neg (by decide), flash_line] at flash_text
  exact ⟨sound, flash_ordinary, poll_ordinary, flash_count.trans (by decide),
    poll_count.trans (if_pos rfl), flash_text, poll_unseen.mpr rfl⟩

/-- An ordinary method of an enum may be declared nowhere: no line of the text names `open`. -/
theorem enumNative_not_declared :
    let foo : EnumDeclaration :=
      { type := .declared "" "Foo" .enumType, methods := [commandMethod "open" true false] }
    let block :=
      ["@interface FooEnum : JavaLangEnum < NSCopying > \x7b", "\x7d",
        "+ (IOSObjectArray *)values;", "+ (FooEnum *)valueOfWithNSString:(NSString *)name;",
        "- (id)copyWithZone:(NSZone *)zone;", "@end"]
    let guard := "__attribute__((always_inline)) inline void FooEnum_init() \x7b\x7d"
    let array := "FOUNDATION_EXPORT FooEnum *FooEnum_values[];"
    (enumEmission {} foo).fault = none ∧ (commandMethod "open" true false).IsOrdinary ∧
      written {} (enumEmission {} foo).steps = Page.ended (block ++ ["", guard, "", array]) := by
  intro foo block guard array
  have steps_eq : (enumEmission {} foo).steps =
      lines block ++ [.newline] ++ lines [guard] ++ [.newline] ++ lines [array] := by
    decide
  have prints := (prints_lines block).append prints_newline
    |>.append (prints_lines [guard])
    |>.append prints_newline
    |>.append (prints_lines [array])
  refine ⟨by decide, ⟨rfl, rfl, rfl, rfl⟩, ?_⟩
  rw [steps_eq]
  exact prints.render_eq 2

end HeaderForge.Header
