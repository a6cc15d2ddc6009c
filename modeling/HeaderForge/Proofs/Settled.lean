import HeaderForge.Proofs.Declarations
import HeaderForge.Proofs.Page

/-!
# Headers are settled

Every part of a header ends where a line begins and at the level it began at. The two places that
leave a line open, the head of an interface that extends others and that of the class of an annotation
type, are followed by steps that end it. A header is therefore its parts, each written on a page of
its own.
-/

namespace HeaderForge.Header

open Page

/-! ## Emissions -/

/-- The steps of an emission are settled, also if a fault stopped it. -/
def Emission.Settled (emission : Emission) : Prop := Page.Settled emission.steps

namespace Emission

theorem Settled.andThen {first second : Emission} (first_settled : first.Settled)
    (second_settled : second.Settled) : (first.andThen second).Settled := by
  cases fault_eq : first.fault with
  | some fault => rwa [andThen_of_fault fault_eq]
  | none =>
      rw [andThen_of_sound fault_eq]
      exact Page.Settled.append first_settled second_settled

theorem settled_forEach {values : List α} {emit : α → Emission}
    (settled : ∀ value ∈ values, (emit value).Settled) : (forEach values emit).Settled := by
  induction values with
  | nil => exact settled_nil
  | cons value rest ih =>
      exact (settled value List.mem_cons_self).andThen
        (ih fun other other_mem => settled other (List.mem_cons_of_mem value other_mem))

end Emission

/-! ## Openings -/

theorem docLines_settled (doc : Option String) : Page.Settled (docLines doc) := by
  cases doc with
  | none => exact settled_nil
  | some doc => exact (closing_line _).settled

theorem deprecatedLine_settled (context : Context) (deprecated : Bool) :
    Page.Settled (deprecatedLine context deprecated) :=
  settled_ite (closing_line _).settled settled_nil

theorem variableDefinition_settled (context : Context) (declaring : TypeRef) (var : Variable) :
    (variableDefinition context declaring var).Settled := by
  unfold variableDefinition
  split
  · exact settled_nil
  · exact settled_nil
  · exact (closing_line _).settled

theorem constantDefinitions_settled (context : Context) (declaring : TypeRef)
    (fields : List Field) : (constantDefinitions context declaring fields).Settled := by
  apply Emission.Settled.andThen
  · exact Emission.settled_forEach fun var _ => variableDefinition_settled context declaring var
  · exact settled_ite closing_newline.settled settled_nil

theorem opening_settled (context : Context) (declaration : Declaration) :
    (opening context declaration).Settled :=
  Emission.Settled.andThen settled_nil (constantDefinitions_settled context _ _)

/-! ## Fields and methods -/

theorem instanceField_settled (context : Context) (declaring : TypeRef) (field : Field) :
    (instanceField context declaring field).Settled := by
  unfold instanceField
  split
  · exact settled_nil
  · exact ((docLines_settled field.doc).append (closing_line _).settled).indented

theorem instanceVariables_settled (context : Context) (declaring : TypeRef)
    (fields : List Field) : (instanceVariables context declaring fields).Settled := by
  unfold instanceVariables
  split
  · exact settled_nil
  · apply Emission.Settled.andThen
    · exact Emission.Settled.andThen settled_nil (closing_line _).settled
    · exact Emission.settled_forEach fun field _ => instanceField_settled context declaring field

theorem methodSteps_settled (context : Context) (method : Method) :
    Page.Settled (methodSteps context method) := by
  unfold methodSteps
  split
  · exact settled_nil
  · exact ((docLines_settled method.doc).newline_cons.append_settled
      (closing_line _).settled).settled

theorem methodsSteps_settled (context : Context) (methods : List Method) :
    Page.Settled (methodsSteps context methods) :=
  settled_flatMap fun method _ => methodSteps_settled context method

/-! ## Statics and setters -/

theorem staticInit_closing (context : Context) (declaring : TypeRef) (methods : List Method) :
    Closing (staticInit context declaring methods) :=
  Settled.newline_cons (settled_ite (settled_lines _) (closing_line _).settled)

theorem staticVariables_settled (context : Context) (declaring : TypeRef)
    (fields : List Field) : Page.Settled (staticVariables context declaring fields) :=
  settled_flatMap fun _ _ => (settled_lines _).newline_cons.settled

theorem fieldSetters_settled (context : Context) (declaring : TypeRef) (fields : List Field) :
    Page.Settled (fieldSetters context declaring fields) := by
  unfold fieldSetters
  split
  · exact settled_nil
  · exact (settled_lines _).newline_cons.settled

theorem boxedSteps_settled (context : Context) (declaring : TypeRef) :
    Page.Settled (boxedSteps context declaring) := by
  unfold boxedSteps
  split
  · exact settled_nil
  · exact settled_ite (closing_line _).settled.newline_cons.settled settled_nil

theorem prefixAlias_settled (context : Context) (declaring : TypeRef) (isTopLevel : Bool) :
    Page.Settled (prefixAlias context declaring isTopLevel) :=
  settled_ite (closing_line _).settled.newline_cons.settled settled_nil

/-! ## Classes and interfaces -/

theorem blockEnd_closing : Closing blockEnd := (closing_line endLine).settled.newline_cons

theorem protocolHead_keepsLevel (context : Context) (declaration : TypeDeclaration) :
    KeepsLevel (protocolHead context declaration) := by
  unfold protocolHead
  split
  · exact (closing_line _).keepsLevel
  · exact keepsLevel_write _

theorem classHead_settled (context : Context) (declaration : TypeDeclaration) :
    (classHead context declaration).Settled := by
  apply Emission.Settled.andThen
  · exact Emission.Settled.andThen (closing_line _).settled
      (instanceVariables_settled context declaration.type declaration.fields)
  · exact (closing_line _).settled

theorem typeHead_keepsLevel (context : Context) (declaration : TypeDeclaration) :
    KeepsLevel (typeHead context declaration).steps := by
  unfold typeHead
  split
  · exact protocolHead_keepsLevel context declaration
  · exact (classHead_settled context declaration).keepsLevel

theorem companionClass_settled (context : Context) (declaration : TypeDeclaration) :
    Page.Settled (companionClass context declaration) :=
  settled_ite ((closing_line _).settled.newline_cons.append_settled blockEnd_closing.settled).settled
    settled_nil

theorem typeStatics_settled (context : Context) (declaration : TypeDeclaration) :
    Page.Settled (typeStatics context declaration) := by
  have init_settled := (staticInit_closing context declaration.type declaration.methods).settled
  have storage_settled := staticVariables_settled context declaration.type declaration.fields
  have setters_settled := fieldSetters_settled context declaration.type declaration.fields
  exact settled_ite
    (((companionClass_settled context declaration).append init_settled).append storage_settled)
    ((init_settled.append setters_settled).append storage_settled)

theorem nativeBlock_settled (context : Context) (declaration : TypeDeclaration) :
    Page.Settled (nativeBlock context declaration) := by
  unfold nativeBlock
  split
  · exact settled_nil
  · exact (closing_line _).settled.newline_cons.settled
      |>.append (settled_lines _)
      |>.append (closing_line endLine).settled

/-- The line that the head of an interface leaves open is ended at the latest by the end of its
block. -/
theorem typeStart_closing (context : Context) (declaration : TypeDeclaration) :
    Closing
      (docLines declaration.doc ++ deprecatedLine context (isDeprecated declaration.annotations)
        ++ (typeHead context declaration).steps
        ++ (methodsSteps context declaration.methods ++ blockEnd ++ typeStatics context declaration
          ++ boxedSteps context declaration.type)) := by
  have above_settled := (docLines_settled declaration.doc).append
    (deprecatedLine_settled context (isDeprecated declaration.annotations))
  have block_closing := (methodsSteps_settled context declaration.methods).keepsLevel
    |>.append_closing blockEnd_closing
    |>.append_settled (typeStatics_settled context declaration)
    |>.append_settled (boxedSteps_settled context declaration.type)
  exact (above_settled.keepsLevel.append (typeHead_keepsLevel context declaration)).append_closing
    block_closing

theorem typeBody_closing (context : Context) (declaration : TypeDeclaration) :
    Closing (typeBody context declaration) := by
  have whole_closing := typeStart_closing context declaration
    |>.append_settled (prefixAlias_settled context declaration.type declaration.isTopLevel)
    |>.append_settled (nativeBlock_settled context declaration)
  simpa only [typeBody, List.append_assoc] using whole_closing

/-! ## Enums -/

theorem enumeration_settled (context : Context) (declaration : EnumDeclaration) :
    Page.Settled (enumeration context declaration) := by
  apply settled_ite settled_nil
  exact (closing_line _).settled
    |>.append (settled_lines _).indented
    |>.append (closing_line _).settled
    |>.append closing_newline.settled

theorem enumHead_settled (context : Context) (declaration : EnumDeclaration) :
    (enumHead context declaration).Settled := by
  apply Emission.Settled.andThen
  · exact Emission.Settled.andThen (closing_line _).settled
      (instanceVariables_settled context declaration.type declaration.fields)
  · exact (closing_line _).settled

theorem valuesArray_settled (context : Context) (declaration : EnumDeclaration) :
    Page.Settled (valuesArray context declaration) :=
  (closing_line _).settled.newline_cons.settled

theorem constantAccess_settled (context : Context) (declaration : EnumDeclaration)
    (constant : EnumConstant) : Page.Settled (constantAccess context declaration constant) :=
  (settled_lines _).newline_cons.settled

theorem enumStart_settled (context : Context) (declaration : EnumDeclaration) :
    Page.Settled
      (enumeration context declaration ++ docLines declaration.doc
        ++ deprecatedLine context (isDeprecated declaration.annotations)
        ++ (enumHead context declaration).steps
        ++ (Page.lines (enumMethods (context.naming.fullName declaration.type))
          ++ methodsSteps context declaration.methods ++ line endLine
          ++ staticInit context declaration.type declaration.methods
          ++ valuesArray context declaration
          ++ declaration.constants.flatMap (constantAccess context declaration)
          ++ staticVariables context declaration.type declaration.fields
          ++ fieldSetters context declaration.type declaration.fields)) := by
  have above_settled := enumeration_settled context declaration
    |>.append (docLines_settled declaration.doc)
    |>.append (deprecatedLine_settled context (isDeprecated declaration.annotations))
    |>.append (enumHead_settled context declaration)
  have constants_settled : Page.Settled
      (declaration.constants.flatMap (constantAccess context declaration)) :=
    settled_flatMap fun constant _ => constantAccess_settled context declaration constant
  have block_settled := settled_lines (enumMethods (context.naming.fullName declaration.type))
    |>.append (methodsSteps_settled context declaration.methods)
    |>.append (closing_line endLine).settled
    |>.append (staticInit_closing context declaration.type declaration.methods).settled
    |>.append (valuesArray_settled context declaration)
    |>.append constants_settled
    |>.append (staticVariables_settled context declaration.type declaration.fields)
    |>.append (fieldSetters_settled context declaration.type declaration.fields)
  exact above_settled.append block_settled

theorem enumBody_settled (context : Context) (declaration : EnumDeclaration) :
    Page.Settled (enumBody context declaration) := by
  have whole_settled := (enumStart_settled context declaration).append
    (prefixAlias_settled context declaration.type declaration.isTopLevel)
  simpa only [enumBody, List.append_assoc] using whole_settled

/-! ## Annotation types -/

theorem properties_settled (context : Context) (members : List AnnotationMember) :
    Page.Settled (properties context members) :=
  settled_ite settled_nil
    ((settled_lines _).newline_cons.append_settled closing_newline.settled).settled

theorem memberVariables_closing (context : Context) (members : List AnnotationMember) :
    Closing (memberVariables context members) := by
  unfold memberVariables
  split
  · exact closing_newline
  · have block_settled := settled_lines [" \x7b", SupportLibrary.privateLine]
      |>.append (settled_lines (members.map (memberLine context))).indented
      |>.append (closing_line "\x7d").settled
    exact block_settled.keepsLevel.append_closing (closing_line _).settled.newline_cons

theorem defaultAccessors_settled (context : Context) (members : List AnnotationMember) :
    Page.Settled (defaultAccessors context members) := by
  unfold defaultAccessors
  split
  · exact settled_nil
  · exact (settled_lines _).newline_cons.settled

theorem annotationProtocol_settled (context : Context) (declaration : AnnotationDeclaration) :
    Page.Settled (annotationProtocol context declaration) :=
  (closing_line _).settled
    |>.append (settled_ite (properties_settled context declaration.members) settled_nil)
    |>.append blockEnd_closing.settled

theorem annotationClass_settled (context : Context) (declaration : AnnotationDeclaration) :
    Page.Settled (annotationClass context declaration) := by
  have head_keepsLevel (text : String) : KeepsLevel [.newline, .write text] :=
    closing_newline.keepsLevel.append (keepsLevel_write text)
  have body_closing : Closing
      (if declaration.isRuntime then
        memberVariables context declaration.members ++ defaultAccessors context declaration.members
      else [.newline]) := by
    split
    · exact (memberVariables_closing context declaration.members).append_settled
        (defaultAccessors_settled context declaration.members)
    · exact closing_newline
  exact (head_keepsLevel _).append_closing body_closing
    |>.append_settled blockEnd_closing.settled
    |>.append_settled (staticInit_closing context declaration.type declaration.methods).settled
    |>.append_settled (staticVariables_settled context declaration.type declaration.fields)
    |>.settled

theorem annotationBody_settled (context : Context) (declaration : AnnotationDeclaration) :
    Page.Settled (annotationBody context declaration) :=
  docLines_settled declaration.doc
    |>.append (annotationProtocol_settled context declaration)
    |>.append (settled_ite (annotationClass_settled context declaration) settled_nil)
    |>.append (prefixAlias_settled context declaration.type declaration.isTopLevel)

/-! ## Whole headers -/

theorem body_settled (context : Context) (declaration : Declaration) :
    Page.Settled (body context declaration) := by
  cases declaration with
  | ofType declaration => exact (typeBody_closing context declaration).settled
  | ofEnum declaration => exact enumBody_settled context declaration
  | ofAnnotationType declaration => exact annotationBody_settled context declaration

theorem declarationEmission_settled (context : Context) (declaration : Declaration) :
    (declarationEmission context declaration).Settled := by
  rw [declarationEmission_eq]
  exact (opening_settled context declaration).andThen (body_settled context declaration)

theorem markingLines_settled (context : Context) (texts : List String) :
    Page.Settled (markingLines context texts) :=
  settled_ite (settled_lines texts) settled_nil

theorem forwardLines_settled (entries : List Import) : Page.Settled (forwardLines entries) := by
  unfold forwardLines
  split
  · exact settled_nil
  · exact (settled_lines _).append closing_newline.settled

theorem prologue_settled (context : Context) (mainName : String)
    (dependencies : Dependencies) : Page.Settled (prologue context mainName dependencies) :=
  settled_lines ["#ifndef " ++ guardName mainName, "#define " ++ guardName mainName]
    |>.append (markingLines_settled context _)
    |>.append (forwardLines_settled dependencies.forward).newline_cons.settled
    |>.append (closing_line _).settled
    |>.append (settled_lines _)

theorem separated_steps (context : Context) (declaration : Declaration) :
    (separated context declaration).steps =
      .newline :: (declarationEmission context declaration).steps := rfl

/-- The steps of a unit without a fault. -/
theorem unitEmission_steps_of_sound {context : Context} {unit : SourceUnit}
    (sound : ∀ declaration ∈ unit.declarations, (opening context declaration).fault = none) :
    (unitEmission context unit).steps =
      line (context.settings.bannerFor unit.sourceFile)
        ++ (prologue context (context.naming.mainName unit)
            (Dependencies.collect context.naming unit)
          ++ (unit.declarations.flatMap (fun declaration =>
              .newline :: (declarationEmission context declaration).steps)
            ++ epilogue context (context.naming.mainName unit))) := by
  have separated_sound :
      ∀ declaration ∈ unit.declarations, (separated context declaration).fault = none := by
    intro declaration declaration_mem
    simp [separated, sound declaration declaration_mem]
  simp only [unitEmission, Emission.forEach_of_sound separated_sound, separated_steps,
    Emission.andThen, List.append_assoc]

/-- The text of steps on an empty page. -/
def written (context : Context) (steps : List Page.Step) : String :=
  Page.render context.settings.indentWidth steps

theorem written_separated (context : Context) (declaration : Declaration) :
    written context (.newline :: (declarationEmission context declaration).steps) =
      "\n" ++ written context (declarationEmission context declaration).steps :=
  closing_newline.settled.render_append _ _

/-- The text of a unit without a fault. -/
theorem written_unitEmission {context : Context} {unit : SourceUnit}
    (sound : ∀ declaration ∈ unit.declarations, (opening context declaration).fault = none) :
    written context (unitEmission context unit).steps =
      context.settings.bannerFor unit.sourceFile ++ "\n"
        ++ written context (prologue context (context.naming.mainName unit)
            (Dependencies.collect context.naming unit))
        ++ String.join (unit.declarations.map fun declaration =>
            "\n" ++ written context (declarationEmission context declaration).steps)
        ++ written context (epilogue context (context.naming.mainName unit)) := by
  have part_settled : ∀ declaration ∈ unit.declarations,
      Page.Settled (.newline :: (declarationEmission context declaration).steps) :=
    fun declaration _ => (declarationEmission_settled context declaration).newline_cons.settled
  simp only [← written_separated]
  simp only [written]
  rw [unitEmission_steps_of_sound sound, (closing_line _).settled.render_append,
    (prologue_settled context _ _).render_append,
    (settled_flatMap part_settled).render_append, render_flatMap part_settled, render_line]
  simp only [String.append_assoc]

/-- A header is its banner, and then what its beginning, its declarations in order and its end write on
pages of their own. -/
theorem generate_eq_ok_iff_parts (context : Context) (unit : SourceUnit) :
    (∀ text, generate context unit = .ok text ↔
      (∀ declaration ∈ unit.declarations,
          (declarationEmission context declaration).fault = none) ∧
        text =
          context.settings.bannerFor unit.sourceFile ++ "\n"
            ++ written context (prologue context (context.naming.mainName unit)
                (Dependencies.collect context.naming unit))
            ++ String.join (unit.declarations.map fun declaration =>
                "\n" ++ written context (declarationEmission context declaration).steps)
            ++ written context (epilogue context (context.naming.mainName unit))) ∧
      ∀ (declaration : Declaration) (before : String),
        Page.run ⟨context.settings.indentWidth, before, 0, true⟩
            (declarationEmission context declaration).steps =
          ⟨context.settings.indentWidth,
            before ++ written context (declarationEmission context declaration).steps, 0, true⟩ := by
  constructor
  · intro text
    rw [generate_eq_ok_iff]
    simp only [declarationEmission_fault]
    refine and_congr_right fun sound => ?_
    rw [← written_unitEmission sound]
    rfl
  · intro declaration before
    exact (declarationEmission_settled context declaration).run_outermost _ before

end HeaderForge.Header
