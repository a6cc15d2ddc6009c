import HeaderForge.Proofs.Brackets.Lines
import HeaderForge.Proofs.Settled
import Mathlib.Data.List.Forall2

/-!
# Annotations and deprecation

Annotations say only whether what carries them is deprecated, and only where deprecated declarations are
marked. So a header stays the same when annotations are replaced that are marked alike, and a header
that marks nothing is one whose source is without annotations, apart from the lines that keep compilers
from warning of marks.
-/

namespace HeaderForge

/-! ## Sources that differ in their annotations -/

section

variable (related : List AnnotationUse → List AnnotationUse → Prop)

/-- The methods differ at most in their annotations, which are related. -/
inductive Method.Reannotated : Method → Method → Prop
  | mk {method : Method} {uses : List AnnotationUse}
      (uses_related : related method.annotations uses) :
      Reannotated method { method with annotations := uses }

/-- The declarations differ at most in their annotations and those of their methods, which are
related. -/
inductive Declaration.Reannotated : Declaration → Declaration → Prop
  | ofType {declaration : TypeDeclaration} {uses : List AnnotationUse} {methods : List Method}
      (uses_related : related declaration.annotations uses)
      (methods_reannotated :
        List.Forall₂ (Method.Reannotated related) declaration.methods methods) :
      Reannotated (.ofType declaration)
        (.ofType { declaration with annotations := uses, methods })
  | ofEnum {declaration : EnumDeclaration} {uses : List AnnotationUse} {methods : List Method}
      (uses_related : related declaration.annotations uses)
      (methods_reannotated :
        List.Forall₂ (Method.Reannotated related) declaration.methods methods) :
      Reannotated (.ofEnum declaration)
        (.ofEnum { declaration with annotations := uses, methods })
  | ofAnnotationType {declaration : AnnotationDeclaration} {uses : List AnnotationUse}
      {methods : List Method} (uses_related : related declaration.annotations uses)
      (methods_reannotated :
        List.Forall₂ (Method.Reannotated related) declaration.methods methods) :
      Reannotated (.ofAnnotationType declaration)
        (.ofAnnotationType { declaration with annotations := uses, methods })

/-- The units differ at most in the annotations of their declarations and methods, which are related. -/
inductive SourceUnit.Reannotated : SourceUnit → SourceUnit → Prop
  | mk {unit : SourceUnit} {declarations : List Declaration}
      (declarations_reannotated :
        List.Forall₂ (Declaration.Reannotated related) unit.declarations declarations) :
      Reannotated unit { unit with declarations }

end

/-- The method without annotations. -/
def Method.withoutAnnotations (method : Method) : Method := { method with annotations := [] }

/-- The declaration without annotations, also of its methods. -/
def Declaration.withoutAnnotations : Declaration → Declaration
  | ofType declaration => ofType
      { declaration with
        annotations := [], methods := declaration.methods.map Method.withoutAnnotations }
  | ofEnum declaration => ofEnum
      { declaration with
        annotations := [], methods := declaration.methods.map Method.withoutAnnotations }
  | ofAnnotationType declaration => ofAnnotationType
      { declaration with
        annotations := [], methods := declaration.methods.map Method.withoutAnnotations }

/-- The unit without annotations. -/
def SourceUnit.withoutAnnotations (unit : SourceUnit) : SourceUnit :=
  { unit with declarations := unit.declarations.map Declaration.withoutAnnotations }

theorem forall₂_map_self {relation : α → α → Prop} {change : α → α}
    (changed : ∀ value, relation value (change value)) (values : List α) :
    List.Forall₂ relation values (values.map change) :=
  List.forall₂_map_right_iff.mpr (List.forall₂_same.mpr fun value _ => changed value)

/-- Related lists have the same images under functions that agree on related elements. -/
theorem map_eq_of_forall₂ {relation : α → β → Prop} {image : α → γ} {otherImage : β → γ}
    {values : List α} {others : List β} (related : List.Forall₂ relation values others)
    (agree : ∀ value other, relation value other → image value = otherImage other) :
    values.map image = others.map otherImage := by
  rw [← List.forall₂_eq_eq_eq, List.forall₂_map_left_iff, List.forall₂_map_right_iff]
  exact related.imp agree

theorem Declaration.reannotated_withoutAnnotations (declaration : Declaration) :
    declaration.Reannotated (fun _ uses => uses = []) declaration.withoutAnnotations := by
  have methods_reannotated (methods : List Method) :
      List.Forall₂ (Method.Reannotated fun _ uses => uses = []) methods
        (methods.map Method.withoutAnnotations) :=
    forall₂_map_self (fun method => .mk rfl) methods
  cases declaration with
  | ofType declaration => exact .ofType rfl (methods_reannotated _)
  | ofEnum declaration => exact .ofEnum rfl (methods_reannotated _)
  | ofAnnotationType declaration => exact .ofAnnotationType rfl (methods_reannotated _)

theorem SourceUnit.reannotated_withoutAnnotations (unit : SourceUnit) :
    unit.Reannotated (fun _ uses => uses = []) unit.withoutAnnotations :=
  .mk (forall₂_map_self Declaration.reannotated_withoutAnnotations unit.declarations)

section

variable {related : List AnnotationUse → List AnnotationUse → Prop}

theorem signatures_eq_of_reannotated {methods others : List Method}
    (reannotated : List.Forall₂ (Method.Reannotated related) methods others) :
    methods.map Method.signature = others.map Method.signature := by
  refine map_eq_of_forall₂ reannotated ?_
  rintro _ _ ⟨-⟩
  rfl

theorem Declaration.Reannotated.methods {declaration other : Declaration}
    (reannotated : declaration.Reannotated related other) :
    List.Forall₂ (Method.Reannotated related) declaration.methods other.methods := by
  cases reannotated with
  | ofType _ methods_reannotated => exact methods_reannotated
  | ofEnum _ methods_reannotated => exact methods_reannotated
  | ofAnnotationType _ methods_reannotated => exact methods_reannotated

theorem heading_eq_of_reannotated {declaration other : Declaration}
    (reannotated : declaration.Reannotated related other) :
    (declaration.isTopLevel, declaration.type) = (other.isTopLevel, other.type) := by
  cases reannotated <;> rfl

end

/-! ## What is marked -/

namespace Header

open Page

/-- Annotations that are related are marked alike, if the settings are chosen accordingly. -/
def MarkedAlike (first second : Settings)
    (related : List AnnotationUse → List AnnotationUse → Prop) : Prop :=
  ∀ uses others, related uses others →
    (first.marksDeprecated && isDeprecated uses) = (second.marksDeprecated && isDeprecated others)

section

variable (naming : Naming) {first second : Settings}
  {related : List AnnotationUse → List AnnotationUse → Prop}

theorem marks_eq_of_alike (alike : MarkedAlike first second related)
    {uses others : List AnnotationUse} (uses_related : related uses others) :
    Context.marks ⟨naming, first⟩ (isDeprecated uses) =
      Context.marks ⟨naming, second⟩ (isDeprecated others) :=
  alike uses others uses_related

theorem deprecatedLine_eq_of_alike (alike : MarkedAlike first second related)
    {uses others : List AnnotationUse} (uses_related : related uses others) :
    deprecatedLine ⟨naming, first⟩ (isDeprecated uses) =
      deprecatedLine ⟨naming, second⟩ (isDeprecated others) := by
  rw [deprecatedLine, marks_eq_of_alike naming alike uses_related, deprecatedLine]

theorem methodSteps_eq_of_reannotated (alike : MarkedAlike first second related)
    {method other : Method} (reannotated : method.Reannotated related other) :
    methodSteps ⟨naming, first⟩ method = methodSteps ⟨naming, second⟩ other := by
  obtain ⟨uses_related⟩ := reannotated
  simp only [methodSteps, methodLine?, ordinaryLine, deprecatedMark,
    marks_eq_of_alike naming alike uses_related]
  rfl

theorem methodsSteps_eq_of_reannotated (alike : MarkedAlike first second related)
    {methods others : List Method}
    (reannotated : List.Forall₂ (Method.Reannotated related) methods others) :
    methodsSteps ⟨naming, first⟩ methods = methodsSteps ⟨naming, second⟩ others := by
  have steps_eq :
      methods.map (methodSteps ⟨naming, first⟩) = others.map (methodSteps ⟨naming, second⟩) :=
    map_eq_of_forall₂ reannotated fun _ _ => methodSteps_eq_of_reannotated naming alike
  rw [methodsSteps, methodsSteps, List.flatMap_def, List.flatMap_def, steps_eq]

end

/-! ## Parts that annotations do not reach -/

section

variable (naming : Naming) (first second : Settings)
  {related : List AnnotationUse → List AnnotationUse → Prop} {methods others : List Method}

/-- Whether methods set up their type shows in their signatures. -/
theorem haveInitializer_eq_any_signature (methods : List Method) :
    haveInitializer methods =
      (methods.map Method.signature).any fun signature => signature.sort == .staticInitializer := by
  rw [List.any_map]
  rfl

theorem haveInitializer_eq_of_reannotated
    (reannotated : List.Forall₂ (Method.Reannotated related) methods others) :
    haveInitializer methods = haveInitializer others := by
  rw [haveInitializer_eq_any_signature, signatures_eq_of_reannotated reannotated,
    ← haveInitializer_eq_any_signature]

theorem staticInit_eq_of_reannotated (declaring : TypeRef)
    (reannotated : List.Forall₂ (Method.Reannotated related) methods others) :
    staticInit ⟨naming, first⟩ declaring methods =
      staticInit ⟨naming, second⟩ declaring others := by
  simp only [staticInit, haveInitializer_eq_of_reannotated reannotated]

theorem externalNatives_reannotated
    (reannotated : List.Forall₂ (Method.Reannotated related) methods others) :
    List.Forall₂ (Method.Reannotated related) (externalNatives methods) (externalNatives others) := by
  refine List.rel_filter ?_ reannotated
  rintro _ _ ⟨-⟩
  exact Iff.rfl

/-- The line of a method whose body is written elsewhere shows its signature only. -/
theorem nativeLines_eq_of_reannotated
    (reannotated : List.Forall₂ (Method.Reannotated related) methods others) :
    methods.map (nativeLine ⟨naming, first⟩) = others.map (nativeLine ⟨naming, second⟩) := by
  have lines_eq (settings : Settings) (natives : List Method) :
      natives.map (nativeLine ⟨naming, settings⟩) =
        (natives.map Method.signature).map fun signature =>
          naming.methodDeclaration signature ++ ";" := by
    rw [List.map_map]
    rfl
  rw [lines_eq, lines_eq, signatures_eq_of_reannotated reannotated]

theorem nativeBlock_eq_of_reannotated {declaration other : TypeDeclaration}
    (type_eq : declaration.type = other.type)
    (reannotated : List.Forall₂ (Method.Reannotated related) declaration.methods other.methods) :
    nativeBlock ⟨naming, first⟩ declaration = nativeBlock ⟨naming, second⟩ other := by
  have natives_reannotated := externalNatives_reannotated reannotated
  have lines_eq := nativeLines_eq_of_reannotated naming first second natives_reannotated
  unfold nativeBlock
  cases natives_eq : externalNatives declaration.methods with
  | nil =>
      rw [natives_eq] at natives_reannotated
      rw [List.forall₂_nil_left_iff.mp natives_reannotated]
  | cons native natives =>
      rw [natives_eq, List.forall₂_cons_left_iff] at natives_reannotated
      obtain ⟨otherNative, others, -, -, others_eq⟩ := natives_reannotated
      rw [natives_eq, others_eq] at lines_eq
      simp only [others_eq, lines_eq, type_eq]

theorem typeStatics_eq_of_reannotated {declaration : TypeDeclaration} (uses : List AnnotationUse)
    (reannotated : List.Forall₂ (Method.Reannotated related) declaration.methods methods) :
    typeStatics ⟨naming, first⟩ declaration =
      typeStatics ⟨naming, second⟩ { declaration with annotations := uses, methods } := by
  simp only [typeStatics, companionClass, staticInit,
    haveInitializer_eq_of_reannotated reannotated]
  rfl

theorem annotationClass_eq_of_reannotated {declaration : AnnotationDeclaration}
    (uses : List AnnotationUse)
    (reannotated : List.Forall₂ (Method.Reannotated related) declaration.methods methods) :
    annotationClass ⟨naming, first⟩ declaration =
      annotationClass ⟨naming, second⟩ { declaration with annotations := uses, methods } := by
  simp only [annotationClass, staticInit_eq_of_reannotated naming first second _ reannotated]
  rfl

end

/-! ## Declarations -/

section

variable (naming : Naming) {first second : Settings}
  {related : List AnnotationUse → List AnnotationUse → Prop}

theorem typeBody_eq_of_reannotated (alike : MarkedAlike first second related)
    {declaration : TypeDeclaration} {uses : List AnnotationUse} {methods : List Method}
    (uses_related : related declaration.annotations uses)
    (reannotated : List.Forall₂ (Method.Reannotated related) declaration.methods methods) :
    typeBody ⟨naming, first⟩ declaration =
      typeBody ⟨naming, second⟩ { declaration with annotations := uses, methods } := by
  have mark_eq := deprecatedLine_eq_of_alike naming alike uses_related
  have methods_eq := methodsSteps_eq_of_reannotated naming alike reannotated
  have statics_eq := typeStatics_eq_of_reannotated naming first second uses reannotated
  have natives_eq : nativeBlock ⟨naming, first⟩ declaration =
      nativeBlock ⟨naming, second⟩ { declaration with annotations := uses, methods } :=
    nativeBlock_eq_of_reannotated naming first second rfl reannotated
  rw [typeBody, mark_eq, methods_eq, statics_eq, natives_eq]
  rfl

theorem enumBody_eq_of_reannotated (alike : MarkedAlike first second related)
    {declaration : EnumDeclaration} {uses : List AnnotationUse} {methods : List Method}
    (uses_related : related declaration.annotations uses)
    (reannotated : List.Forall₂ (Method.Reannotated related) declaration.methods methods) :
    enumBody ⟨naming, first⟩ declaration =
      enumBody ⟨naming, second⟩ { declaration with annotations := uses, methods } := by
  have mark_eq := deprecatedLine_eq_of_alike naming alike uses_related
  have methods_eq := methodsSteps_eq_of_reannotated naming alike reannotated
  have init_eq := staticInit_eq_of_reannotated naming first second declaration.type reannotated
  rw [enumBody, mark_eq, methods_eq, init_eq]
  rfl

theorem annotationBody_eq_of_reannotated {declaration : AnnotationDeclaration}
    (uses : List AnnotationUse) {methods : List Method}
    (reannotated : List.Forall₂ (Method.Reannotated related) declaration.methods methods) :
    annotationBody ⟨naming, first⟩ declaration =
      annotationBody ⟨naming, second⟩ { declaration with annotations := uses, methods } := by
  rw [annotationBody, annotationClass_eq_of_reannotated naming first second uses reannotated]
  rfl

/-- Declarations whose annotations are marked alike have the same text. -/
theorem declarationEmission_eq_of_reannotated (alike : MarkedAlike first second related)
    {declaration other : Declaration} (reannotated : declaration.Reannotated related other) :
    declarationEmission ⟨naming, first⟩ declaration =
      declarationEmission ⟨naming, second⟩ other := by
  have body_eq : body ⟨naming, first⟩ declaration = body ⟨naming, second⟩ other := by
    cases reannotated with
    | ofType uses_related methods_reannotated =>
        exact typeBody_eq_of_reannotated naming alike uses_related methods_reannotated
    | ofEnum uses_related methods_reannotated =>
        exact enumBody_eq_of_reannotated naming alike uses_related methods_reannotated
    | ofAnnotationType _ methods_reannotated =>
        exact annotationBody_eq_of_reannotated naming _ methods_reannotated
  have opening_eq : opening ⟨naming, first⟩ declaration = opening ⟨naming, second⟩ other := by
    cases reannotated <;> rfl
  rw [declarationEmission_eq, declarationEmission_eq, body_eq, opening_eq]

/-! ## Units -/

theorem superTypeImports_eq_of_reannotated {declaration other : Declaration}
    (reannotated : declaration.Reannotated related other) :
    declaration.superTypeImports naming = other.superTypeImports naming := by
  cases reannotated <;> rfl

/-- The types that methods mention stand in their signatures. -/
theorem methodTypes_eq_of_reannotated {methods others : List Method}
    (reannotated : List.Forall₂ (Method.Reannotated related) methods others) :
    (methods.flatMap fun method => Declaration.signatureTypes method.signature) =
      others.flatMap fun method => Declaration.signatureTypes method.signature := by
  have flatMap_eq (methods : List Method) :
      (methods.flatMap fun method => Declaration.signatureTypes method.signature) =
        (methods.map Method.signature).flatMap Declaration.signatureTypes := by
    rw [List.flatMap_map]
  rw [flatMap_eq, flatMap_eq, signatures_eq_of_reannotated reannotated]

theorem mentionedImports_eq_of_reannotated {declaration other : Declaration}
    (reannotated : declaration.Reannotated related other) :
    declaration.mentionedImports naming = other.mentionedImports naming := by
  have methodTypes_eq := methodTypes_eq_of_reannotated reannotated.methods
  simp only [Declaration.mentionedImports, Declaration.mentionedTypes, methodTypes_eq]
  cases reannotated <;> rfl

/-- The main declaration is found by what its heading shows. -/
theorem mainName_eq_elim (unit : SourceUnit) :
    naming.mainName unit =
      (((unit.declarations.map fun declaration => (declaration.isTopLevel, declaration.type)).find?
        fun heading => heading.1 && heading.2.name == unit.stem).map Prod.snd).elim
          (naming.packageWord unit.package ++ unit.stem) naming.fullName := by
  rw [List.find?_map, Option.map_map]
  change _ = Option.elim (unit.mainDeclaration?.map Declaration.type) _ _
  unfold Naming.mainName
  cases unit.mainDeclaration? with
  | none => rfl
  | some declaration => rfl

theorem mainName_eq_of_reannotated {unit other : SourceUnit}
    (reannotated : unit.Reannotated related other) :
    naming.mainName unit = naming.mainName other := by
  obtain ⟨declarations_reannotated⟩ := reannotated
  have headings_eq :
      (unit.declarations.map fun declaration => (declaration.isTopLevel, declaration.type)) = _ :=
    map_eq_of_forall₂ declarations_reannotated fun _ _ => heading_eq_of_reannotated
  rw [mainName_eq_elim, mainName_eq_elim, headings_eq]
  rfl

theorem collect_eq_of_reannotated {unit other : SourceUnit}
    (reannotated : unit.Reannotated related other) :
    Dependencies.collect naming unit = Dependencies.collect naming other := by
  obtain ⟨declarations_reannotated⟩ := reannotated
  have superTypes_eq : unit.declarations.map (Declaration.superTypeImports naming) = _ :=
    map_eq_of_forall₂ declarations_reannotated fun _ _ =>
      superTypeImports_eq_of_reannotated naming
  have mentioned_eq : unit.declarations.map (Declaration.mentionedImports naming) = _ :=
    map_eq_of_forall₂ declarations_reannotated fun _ _ =>
      mentionedImports_eq_of_reannotated naming
  simp only [Dependencies.collect, List.flatMap_def, superTypes_eq, mentioned_eq]

end

/-! ## Emissions between steps -/

namespace Emission

/-- An emission between steps that meet no fault. -/
def between (before after : List Page.Step) (emission : Emission) : Emission :=
  (andThen ⟨before, none⟩ emission).andThen ⟨after, none⟩

/-- The text of an emission on an empty page, if nothing stopped it. -/
def text (context : Context) (emission : Emission) : Except Fault String :=
  match emission.fault with
  | some fault => .error fault
  | none => .ok (written context emission.steps)

theorem between_between (outerBefore before after outerAfter : List Page.Step)
    (emission : Emission) :
    (emission.between before after).between outerBefore outerAfter =
      emission.between (outerBefore ++ before) (after ++ outerAfter) := by
  obtain ⟨steps, fault⟩ := emission
  cases fault <;> simp [between, andThen]

theorem settled_between {before after : List Page.Step} {emission : Emission}
    (before_settled : Page.Settled before) (settled : emission.Settled)
    (after_settled : Page.Settled after) : (emission.between before after).Settled := by
  have beginning_settled : (andThen ⟨before, none⟩ emission).Settled :=
    Settled.andThen before_settled settled
  exact beginning_settled.andThen after_settled

/-- A frame adds its own text to that of what is settled. -/
theorem text_between {before : List Page.Step} {emission : Emission} (context : Context)
    (before_settled : Page.Settled before) (settled : emission.Settled) (after : List Page.Step) :
    (emission.between before after).text context =
      (emission.text context).map fun text =>
        written context before ++ text ++ written context after := by
  obtain ⟨steps, fault⟩ := emission
  cases fault with
  | some fault => rfl
  | none =>
      have inside_settled : Page.Settled (before ++ steps) := before_settled.append settled
      have text_eq : written context (before ++ steps ++ after) =
          written context before ++ written context steps ++ written context after := by
        rw [written, inside_settled.render_append, before_settled.render_append]
        rfl
      exact congrArg Except.ok text_eq

end Emission

/-- What a header depends on. -/
def importLines (dependencies : Dependencies) : List Page.Step :=
  .newline :: forwardLines dependencies.forward ++ line SupportLibrary.importLine
    ++ lines (Ascending.texts (dependencies.superTypes.map Import.includeStatement))

/-- What a header imports and declares: all but its guard and the lines about warnings. -/
def guarded (context : Context) (unit : SourceUnit) : Emission :=
  (Emission.forEach unit.declarations (separated context)).between
    (importLines (Dependencies.collect context.naming unit)) [.newline]

/-- The lines that begin a header, up to the definition of its guard. -/
def guardOpening (context : Context) (unit : SourceUnit) : List String :=
  [context.settings.bannerFor unit.sourceFile,
   "#ifndef " ++ guardName (context.naming.mainName unit),
   "#define " ++ guardName (context.naming.mainName unit)]

/-- The line that ends the guard of a header. -/
def guardEnd (context : Context) (unit : SourceUnit) : String :=
  "#endif // " ++ guardName (context.naming.mainName unit)

/-- The lines that keep compilers from warning of marks. -/
def allowingLines : List String := [SupportLibrary.saveWarnings, SupportLibrary.allowDeprecated]

theorem importLines_settled (dependencies : Dependencies) :
    Page.Settled (importLines dependencies) :=
  (forwardLines_settled dependencies.forward).newline_cons.settled
    |>.append (closing_line _).settled
    |>.append (settled_lines _)

theorem guarded_settled (context : Context) (unit : SourceUnit) :
    (guarded context unit).Settled := by
  have declarations_settled :
      (Emission.forEach unit.declarations (separated context)).Settled :=
    Emission.settled_forEach fun declaration _ =>
      (declarationEmission_settled context declaration).newline_cons.settled
  exact Emission.settled_between (importLines_settled _) declarations_settled closing_newline.settled

/-- A unit is its guard around the lines about warnings, and these around all else. -/
theorem unitEmission_eq_between (context : Context) (unit : SourceUnit) :
    unitEmission context unit =
      ((guarded context unit).between (markingLines context allowingLines)
          (markingLines context [SupportLibrary.restoreWarnings])).between
        (lines (guardOpening context unit)) (line (guardEnd context unit)) := by
  have opening_eq : lines (guardOpening context unit) =
      line (context.settings.bannerFor unit.sourceFile)
        ++ lines ["#ifndef " ++ guardName (context.naming.mainName unit),
          "#define " ++ guardName (context.naming.mainName unit)] := rfl
  rw [guarded, Emission.between_between, Emission.between_between, opening_eq]
  simp only [unitEmission, Emission.between, prologue, epilogue, importLines, allowingLines, guardEnd,
    List.append_assoc, List.cons_append, List.nil_append]

/-- The text of lines that are only written where deprecated declarations are marked. -/
theorem written_markingLines (context : Context) (texts : List String) :
    written context (markingLines context texts) =
      ended (if context.settings.marksDeprecated then texts else []) := by
  unfold written markingLines
  split
  · exact render_lines _ texts
  · rfl

theorem generate_eq_map_guarded (context : Context) (unit : SourceUnit) :
    generate context unit =
      ((guarded context unit).text context).map fun inside =>
        ended (guardOpening context unit)
          ++ (written context (markingLines context allowingLines) ++ inside
            ++ written context (markingLines context [SupportLibrary.restoreWarnings]))
          ++ ended [guardEnd context unit] := by
  have generate_eq : generate context unit = (unitEmission context unit).text context := rfl
  have marking_settled (texts : List String) : Page.Settled (markingLines context texts) :=
    markingLines_settled context texts
  have inside_settled := guarded_settled context unit
  have opening_eq : written context (lines (guardOpening context unit)) =
      ended (guardOpening context unit) := render_lines _ _
  have end_eq : written context (line (guardEnd context unit)) = ended [guardEnd context unit] :=
    render_lines _ [guardEnd context unit]
  rw [generate_eq, unitEmission_eq_between,
    Emission.text_between context (settled_lines _)
      (Emission.settled_between (marking_settled _) inside_settled (marking_settled _)),
    Emission.text_between context (marking_settled _) inside_settled, opening_eq, end_eq]
  cases (guarded context unit).text context with
  | error fault => simp only [Except.map]
  | ok inside => simp only [Except.map]

/-- The context with deprecated declarations marked or not. -/
def Context.marking (context : Context) (marks : Bool) : Context :=
  { context with settings := { context.settings with marksDeprecated := marks } }

theorem generate_unmarked (context : Context) (unit : SourceUnit) :
    generate (context.marking false) unit =
      ((guarded (context.marking false) unit).text context).map fun inside =>
        ended (guardOpening context unit) ++ inside ++ ended [guardEnd context unit] := by
  have none_written (texts : List String) :
      written (context.marking false) (markingLines (context.marking false) texts) = "" :=
    written_markingLines _ texts
  rw [generate_eq_map_guarded, none_written, none_written]
  simp only [String.empty_append, String.append_empty]
  rfl

theorem generate_marked (context : Context) (unit : SourceUnit) :
    generate (context.marking true) unit =
      ((guarded (context.marking true) unit).text context).map fun inside =>
        ended (guardOpening context unit ++ allowingLines) ++ inside
          ++ ended [SupportLibrary.restoreWarnings, guardEnd context unit] := by
  have all_written (texts : List String) :
      written (context.marking true) (markingLines (context.marking true) texts) = ended texts :=
    written_markingLines _ texts
  have end_eq : ended [SupportLibrary.restoreWarnings, guardEnd context unit] =
      ended [SupportLibrary.restoreWarnings] ++ ended [guardEnd context unit] :=
    ended_append [_] [_]
  rw [generate_eq_map_guarded, all_written, all_written]
  simp only [ended_append, end_eq, String.append_assoc]
  rfl

theorem separated_forEach_eq_of_reannotated (naming : Naming) {first second : Settings}
    {related : List AnnotationUse → List AnnotationUse → Prop}
    (alike : MarkedAlike first second related) {declarations others : List Declaration}
    (reannotated : List.Forall₂ (Declaration.Reannotated related) declarations others) :
    Emission.forEach declarations (separated ⟨naming, first⟩) =
      Emission.forEach others (separated ⟨naming, second⟩) := by
  induction reannotated with
  | nil => rfl
  | cons head _ ih =>
      rw [Emission.forEach_cons, Emission.forEach_cons, ih, separated, separated,
        declarationEmission_eq_of_reannotated naming alike head]

theorem guarded_eq_of_reannotated (naming : Naming) {first second : Settings}
    {related : List AnnotationUse → List AnnotationUse → Prop}
    (alike : MarkedAlike first second related) {unit other : SourceUnit}
    (reannotated : unit.Reannotated related other) :
    guarded ⟨naming, first⟩ unit = guarded ⟨naming, second⟩ other := by
  have dependencies_eq := collect_eq_of_reannotated naming reannotated
  obtain ⟨declarations_reannotated⟩ := reannotated
  have declarations_eq :=
    separated_forEach_eq_of_reannotated naming alike declarations_reannotated
  rw [guarded, guarded, declarations_eq, dependencies_eq]

/-- Annotations that are marked alike make no difference to the header. -/
theorem generate_eq_of_reannotated (naming : Naming) {settings : Settings}
    {related : List AnnotationUse → List AnnotationUse → Prop}
    (alike : MarkedAlike settings settings related) {unit other : SourceUnit}
    (reannotated : unit.Reannotated related other) :
    generate ⟨naming, settings⟩ other = generate ⟨naming, settings⟩ unit := by
  have guarded_eq := guarded_eq_of_reannotated naming alike reannotated
  have mainName_eq := mainName_eq_of_reannotated naming reannotated
  obtain ⟨-⟩ := reannotated
  simp only [generate_eq_map_guarded, guarded_eq, guardOpening, guardEnd, mainName_eq]

theorem markedAlike_of_unmarked {settings : Settings} (unmarked : settings.marksDeprecated = false)
    (related : List AnnotationUse → List AnnotationUse → Prop) :
    MarkedAlike settings settings related := by
  intro uses others _
  rw [unmarked, Bool.false_and, Bool.false_and]

theorem markedAlike_of_isDeprecated_eq (settings : Settings) :
    MarkedAlike settings settings fun uses others => isDeprecated uses = isDeprecated others := by
  intro uses others deprecated_eq
  rw [deprecated_eq]

/-- Nothing is marked without annotations, as nothing is marked where marks are not written. -/
theorem markedAlike_of_empty {first second : Settings} (unmarked : first.marksDeprecated = false) :
    MarkedAlike first second fun _ others => others = [] := by
  rintro uses _ rfl
  rw [unmarked, Bool.false_and]
  exact (Bool.and_false _).symm

/-- Where nothing is marked, annotations make no difference; where deprecated declarations are, it only
matters which lists of annotations mark what carries them. -/
theorem generate_reannotated (context : Context) (unit : SourceUnit) :
    (∀ other, unit.Reannotated (fun _ _ => True) other →
        generate (context.marking false) other = generate (context.marking false) unit) ∧
      (∃ inside : Except Fault String,
        generate (context.marking false) unit =
            inside.map (fun text =>
              ended (guardOpening context unit) ++ text ++ ended [guardEnd context unit]) ∧
          generate (context.marking true) unit.withoutAnnotations =
            inside.map fun text =>
              ended (guardOpening context unit ++ allowingLines) ++ text
                ++ ended [SupportLibrary.restoreWarnings, guardEnd context unit]) ∧
      ∀ other,
        unit.Reannotated (fun uses others => isDeprecated uses = isDeprecated others) other →
          generate (context.marking true) other = generate (context.marking true) unit := by
  refine ⟨fun other reannotated => ?_, ?_, fun other reannotated => ?_⟩
  · exact generate_eq_of_reannotated _ (markedAlike_of_unmarked rfl _) reannotated
  · have emptied := unit.reannotated_withoutAnnotations
    have guarded_eq :
        guarded (context.marking false) unit =
          guarded (context.marking true) unit.withoutAnnotations :=
      guarded_eq_of_reannotated _ (markedAlike_of_empty rfl) emptied
    have mainName_eq := mainName_eq_of_reannotated context.naming emptied
    have start_eq : guardOpening context unit.withoutAnnotations = guardOpening context unit := by
      rw [guardOpening, ← mainName_eq]
      rfl
    have end_eq : guardEnd context unit.withoutAnnotations = guardEnd context unit := by
      rw [guardEnd, ← mainName_eq]
      rfl
    refine ⟨(guarded (context.marking false) unit).text context, generate_unmarked context unit, ?_⟩
    rw [generate_marked, ← guarded_eq, start_eq, end_eq]
  · exact generate_eq_of_reannotated _ (markedAlike_of_isDeprecated_eq _) reannotated

/-- A class with a method, and what both are annotated with. -/
def bellUnit (ofClass ofMethod : List AnnotationUse) : SourceUnit where
  sourceFile := "Bell.java"
  declarations :=
    [.ofType
      { type := .declared "" "Bell" .classType
        annotations := ofClass
        methods :=
          [{ signature := { name := "ring", returnType := .ofPrimitive .void }
             annotations := ofMethod }] }]

theorem bellUnit_reannotated {related : List AnnotationUse → List AnnotationUse → Prop}
    {ofClass ofMethod otherOfClass otherOfMethod : List AnnotationUse}
    (class_related : related ofClass otherOfClass) (method_related : related ofMethod otherOfMethod) :
    (bellUnit ofClass ofMethod).Reannotated related (bellUnit otherOfClass otherOfMethod) :=
  .mk (.cons (.ofType class_related (.cons (.mk method_related) .nil)) .nil)

/-- A deprecated class loses its mark without a trace where nothing is marked, and may be marked in
another way where deprecated declarations are. -/
theorem generate_reannotated_of_bell :
    isDeprecated [⟨"Deprecated"⟩] = true ∧
      generate (Context.marking {} false) (bellUnit [] [⟨"Override"⟩]) =
        generate (Context.marking {} false) (bellUnit [⟨"Deprecated"⟩] []) ∧
      generate (Context.marking {} true) (bellUnit [⟨"java.lang.Deprecated"⟩] [⟨"Override"⟩]) =
        generate (Context.marking {} true) (bellUnit [⟨"Deprecated"⟩] []) := by
  obtain ⟨unmarked, -, marked⟩ := generate_reannotated {} (bellUnit [⟨"Deprecated"⟩] [])
  refine ⟨by decide, unmarked _ (bellUnit_reannotated trivial trivial), marked _ ?_⟩
  exact bellUnit_reannotated (by decide) (by decide)

end Header

end HeaderForge
