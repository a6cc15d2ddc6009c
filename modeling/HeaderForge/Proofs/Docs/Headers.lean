import HeaderForge.Proofs.Docs.Sites
import HeaderForge.Proofs.Docs.Sources
import HeaderForge.Proofs.Settled

/-!
# Comments in headers

The comments of a source are of no account for its header but for the lines they are written on. Without
them the same header is left, or the same fault. Each comment that shows stands whole, right above what
it belongs to.
-/

namespace HeaderForge.Header

open Page (line lines indented spaces Site Woven Weaves Writes)

section

variable (context : Context) {width level : Nat}

/-! ## Comments -/

/-- A comment is woven in above what it belongs to. -/
theorem weaves_docLines (doc : Option String) (texts : List String) :
    Weaves width level [docSite doc (spaces level width) texts] (docLines doc ++ lines texts)
      (lines texts) := by
  have texts_written : Writes width level (lines texts) _ := Page.writes_texts texts
  have doc_written :
      Writes width level (docLines doc) (docSite doc (spaces level width) texts).comment := by
    cases doc with
    | none => exact Page.writes_nil
    | some doc =>
        simp only [docSite, Option.map_some, Option.getD_some, docTexts, docLines]
        exact Page.writes_text (Text.trimEnd '\n' doc)
  have woven := Woven.done.site (docSite doc (spaces level width) texts)
  simp only [List.append_nil] at woven
  exact ⟨_, _, doc_written.append texts_written, texts_written, woven⟩

theorem weaves_docLines_outermost (doc : Option String) (texts : List String) :
    Weaves width 0 [docSite doc 0 texts] (docLines doc ++ lines texts) (lines texts) := by
  have inside : Weaves width 0 [docSite doc (spaces 0 width) texts] (docLines doc ++ lines texts)
      (lines texts) := weaves_docLines doc texts
  rwa [Page.spaces_outermost] at inside

theorem weaves_docLine (doc : Option String) (text : String) :
    Weaves width 0 [docSite doc 0 [text]] (docLines doc ++ line text) (line text) := by
  have inside : Weaves width 0 [docSite doc 0 [text]] (docLines doc ++ lines [text]) (lines [text]) :=
    weaves_docLines_outermost doc [text]
  simpa [lines] using inside

/-! ## Fields -/

theorem weaves_instanceField (declaring : TypeRef) (field : Field) :
    Weaves context.settings.indentWidth 0 (fieldSites context field)
      (instanceField context declaring field).steps
      (instanceField context declaring field.withoutDoc).steps := by
  unfold instanceField fieldSites
  have fragments_eq : field.withoutDoc.fragments = field.fragments := rfl
  rw [fragments_eq]
  cases field.fragments with
  | nil => exact Page.writes_nil.weaves
  | cons lead rest =>
      have inside : Weaves context.settings.indentWidth 1
          [docSite field.doc (spaces 1 context.settings.indentWidth)
            [variablesLine context lead (lead :: rest)]] _ _ :=
        weaves_docLines field.doc [variablesLine context lead (lead :: rest)]
      exact inside.indented

theorem weaves_instanceVariables (declaring : TypeRef) {fields : List Field}
    (filled : ∀ field ∈ fields, field.fragments ≠ []) :
    Weaves context.settings.indentWidth 0 ((instanceFields fields).flatMap (fieldSites context))
      (instanceVariables context declaring fields).steps
      (instanceVariables context declaring (fields.map Field.withoutDoc)).steps := by
  have filled_without : ∀ field ∈ fields.map Field.withoutDoc, field.fragments ≠ [] := by
    simpa [Field.withoutDoc] using filled
  rw [instanceVariables_of_filled context declaring (filled_instanceFields filled),
    instanceVariables_of_filled context declaring (filled_instanceFields filled_without),
    instanceFields_withoutDoc]
  simp only [List.map_eq_nil_iff, List.flatMap_map]
  split
  · next none_declared =>
      rw [none_declared]
      exact Page.writes_nil.weaves
  · exact (Page.writes_text _).weaves.above
      (.flatMap fun field _ => weaves_instanceField context declaring field)

/-! ## Methods -/

theorem weaves_methodSteps (method : Method) :
    Weaves width 0 (methodSites context method) (methodSteps context method)
      (methodSteps context method.withoutDoc) := by
  have line_eq : methodLine? context method.withoutDoc = methodLine? context method := rfl
  rw [methodSites, methodSteps, methodSteps, line_eq]
  cases methodLine? context method with
  | none => exact Page.writes_nil.weaves
  | some text => exact Page.writes_newline.weaves.above (weaves_docLine method.doc text)

theorem weaves_methodsSteps (methods : List Method) :
    Weaves width 0 (methods.flatMap (methodSites context)) (methodsSteps context methods)
      (methodsSteps context (methods.map Method.withoutDoc)) := by
  rw [methodsSteps, methodsSteps, List.flatMap_map]
  exact .flatMap fun method _ => weaves_methodSteps context method

/-- A method of the main block before an empty line instead of after one. -/
def spacedMethod (method : Method) : List Page.Step :=
  match methodLine? context method with
  | none => []
  | some text => docLines method.doc ++ line text ++ [.newline]

theorem methodsSteps_newline (methods : List Method) (rest : List Page.Step) :
    methodsSteps context methods ++ .newline :: rest =
      .newline :: (methods.flatMap (spacedMethod context) ++ rest) := by
  induction methods with
  | nil => rfl
  | cons method others ih =>
      have cons_eq : methodsSteps context (method :: others) ++ .newline :: rest =
          methodSteps context method ++ (methodsSteps context others ++ .newline :: rest) := by
        rw [methodsSteps, List.flatMap_cons, List.append_assoc]
        rfl
      rw [cons_eq, ih, methodSteps, List.flatMap_cons, spacedMethod]
      cases methodLine? context method with
      | none => rfl
      | some text => simp

theorem weaves_spacedMethods (methods : List Method) :
    Weaves width 0 (methods.flatMap (methodSites context))
      (methods.flatMap (spacedMethod context))
      ((methods.map Method.withoutDoc).flatMap (spacedMethod context)) := by
  rw [List.flatMap_map]
  refine .flatMap fun method _ => ?_
  have line_eq : methodLine? context method.withoutDoc = methodLine? context method := rfl
  rw [methodSites, spacedMethod, spacedMethod, line_eq]
  cases methodLine? context method with
  | none => exact Page.writes_nil.weaves
  | some text => exact (weaves_docLine method.doc text).below Page.writes_newline.weaves

/-! ## Declarations -/

theorem deprecatedLine_eq_lines (deprecated : Bool) :
    deprecatedLine context deprecated = lines (deprecatedTexts context deprecated) := by
  unfold deprecatedLine deprecatedTexts
  split <;> simp [lines]

/-- What a class or interface writes from the end of its block on. -/
def afterMethods (declaration : TypeDeclaration) : List Page.Step :=
  line endLine ++ typeStatics context declaration ++ boxedSteps context declaration.type
    ++ prefixAlias context declaration.type declaration.isTopLevel ++ nativeBlock context declaration

theorem afterMethods_settled (declaration : TypeDeclaration) :
    Page.Settled (afterMethods context declaration) :=
  (Page.closing_line endLine).settled
    |>.append (typeStatics_settled context declaration)
    |>.append (boxedSteps_settled context declaration.type)
    |>.append (prefixAlias_settled context declaration.type declaration.isTopLevel)
    |>.append (nativeBlock_settled context declaration)

theorem afterMethods_withoutDocs (declaration : TypeDeclaration) :
    afterMethods context declaration.withoutDocs = afterMethods context declaration := by
  rw [afterMethods, typeStatics_withoutDocs, nativeBlock_withoutDocs]
  rfl

/-- An interface writes its head, its methods and what follows them. A head that is left open is ended
by the empty line before the methods. -/
theorem typeBody_of_interface {declaration : TypeDeclaration}
    (isInterface : declaration.isInterface = true) :
    typeBody context declaration =
      docLines declaration.doc
        ++ lines (deprecatedTexts context (isDeprecated declaration.annotations)
            ++ [protocolLine context declaration])
        ++ ((if declaration.interfaces.isEmpty then [.newline] else [])
          ++ (declaration.methods.flatMap (spacedMethod context)
            ++ afterMethods context declaration)) := by
  have methods_eq : methodsSteps context declaration.methods ++ blockEnd =
      .newline :: (declaration.methods.flatMap (spacedMethod context) ++ line endLine) :=
    methodsSteps_newline context declaration.methods (line endLine)
  rw [typeBody, typeHead, if_pos isInterface, methods_eq, deprecatedLine_eq_lines, protocolHead,
    afterMethods]
  cases declaration.interfaces.isEmpty <;> simp [lines, line, protocolLine]

theorem typeBody_of_class {declaration : TypeDeclaration}
    (isClass : declaration.isInterface = false)
    (filled : ∀ field ∈ declaration.fields, field.fragments ≠ []) :
    typeBody context declaration =
      docLines declaration.doc
        ++ lines (deprecatedTexts context (isDeprecated declaration.annotations)
            ++ [classLine context declaration])
        ++ ((instanceVariables context declaration.type declaration.fields).steps
          ++ (line "\x7d" ++ (methodsSteps context declaration.methods
            ++ ([.newline] ++ afterMethods context declaration)))) := by
  have head_eq : (typeHead context declaration).steps = (classHead context declaration).steps := by
    rw [typeHead, isClass]
    rfl
  rw [typeBody, head_eq, classHead_steps context filled, deprecatedLine_eq_lines, blockEnd,
    afterMethods]
  simp [lines]

theorem weaves_typeBody {declaration : TypeDeclaration}
    (filled : ∀ field ∈ declaration.fields, field.fragments ≠ []) :
    Weaves context.settings.indentWidth 0 (docSites context (.ofType declaration))
      (typeBody context declaration) (typeBody context declaration.withoutDocs) := by
  have same_sort : declaration.withoutDocs.isInterface = declaration.isInterface := rfl
  have filled_without : ∀ field ∈ declaration.withoutDocs.fields, field.fragments ≠ [] := by
    simpa [TypeDeclaration.withoutDocs, Field.withoutDoc] using filled
  have end_weaves : Weaves context.settings.indentWidth 0 []
      (afterMethods context declaration) (afterMethods context declaration) :=
    (afterMethods_settled context declaration).weaves _
  cases sort : declaration.isInterface with
  | true =>
      rw [typeBody_of_interface context sort, typeBody_of_interface context (same_sort.trans sort),
        afterMethods_withoutDocs]
      have separator_weaves : Weaves context.settings.indentWidth 0 []
          (if declaration.interfaces.isEmpty then [.newline] else [])
          (if declaration.interfaces.isEmpty then [.newline] else []) :=
        (Page.settled_ite Page.closing_newline.settled Page.settled_nil).weaves _
      simp only [docSites, headTexts, Declaration.hasObjects, declaresMethods, sort, if_true]
      exact (weaves_docLines_outermost declaration.doc _).append
        (separator_weaves.above
          ((weaves_spacedMethods context declaration.methods).below end_weaves))
  | false =>
      rw [typeBody_of_class context sort filled,
        typeBody_of_class context (same_sort.trans sort) filled_without, afterMethods_withoutDocs]
      simp only [docSites, headTexts, Declaration.hasObjects, declaresMethods, sort,
        Bool.false_eq_true, if_false]
      exact (weaves_docLines_outermost declaration.doc _).append
        ((weaves_instanceVariables context declaration.type filled).append
          ((Page.writes_text "\x7d").weaves.above
            ((weaves_methodsSteps context declaration.methods).below
              (Page.writes_newline.weaves.above end_weaves))))

/-- What an enum writes from the end of its class on. -/
def afterEnumMethods (declaration : EnumDeclaration) : List Page.Step :=
  line endLine ++ staticInit context declaration.type declaration.methods
    ++ valuesArray context declaration
    ++ declaration.constants.flatMap (constantAccess context declaration)
    ++ staticVariables context declaration.type declaration.fields
    ++ fieldSetters context declaration.type declaration.fields
    ++ prefixAlias context declaration.type declaration.isTopLevel

theorem afterEnumMethods_settled (declaration : EnumDeclaration) :
    Page.Settled (afterEnumMethods context declaration) :=
  (Page.closing_line endLine).settled
    |>.append (staticInit_closing context declaration.type declaration.methods).settled
    |>.append (valuesArray_settled context declaration)
    |>.append (Page.settled_flatMap fun constant _ =>
      constantAccess_settled context declaration constant)
    |>.append (staticVariables_settled context declaration.type declaration.fields)
    |>.append (fieldSetters_settled context declaration.type declaration.fields)
    |>.append (prefixAlias_settled context declaration.type declaration.isTopLevel)

theorem afterEnumMethods_withoutDocs (declaration : EnumDeclaration) :
    afterEnumMethods context declaration.withoutDocs = afterEnumMethods context declaration := by
  simp only [afterEnumMethods, EnumDeclaration.withoutDocs, staticInit_withoutDoc,
    staticVariables_withoutDoc, fieldSetters_withoutDoc]
  rfl

theorem enumBody_eq {declaration : EnumDeclaration}
    (filled : ∀ field ∈ declaration.fields, field.fragments ≠ []) :
    enumBody context declaration =
      enumeration context declaration
        ++ (docLines declaration.doc
            ++ lines (deprecatedTexts context (isDeprecated declaration.annotations)
                ++ [enumLine context declaration])
          ++ ((instanceVariables context declaration.type declaration.fields).steps
            ++ (line "\x7d" ++ lines (enumMethods (context.naming.fullName declaration.type))
              ++ (methodsSteps context declaration.methods
                ++ afterEnumMethods context declaration)))) := by
  rw [enumBody, enumHead_steps context filled, deprecatedLine_eq_lines, afterEnumMethods]
  simp [lines]

theorem weaves_enumBody {declaration : EnumDeclaration}
    (filled : ∀ field ∈ declaration.fields, field.fragments ≠ []) :
    Weaves context.settings.indentWidth 0 (docSites context (.ofEnum declaration))
      (enumBody context declaration) (enumBody context declaration.withoutDocs) := by
  have filled_without : ∀ field ∈ declaration.withoutDocs.fields, field.fragments ≠ [] := by
    simpa [EnumDeclaration.withoutDocs, Field.withoutDoc] using filled
  have top_weaves : Weaves context.settings.indentWidth 0 []
      (enumeration context declaration) (enumeration context declaration) :=
    (enumeration_settled context declaration).weaves _
  have middle_settled : Page.Settled
      (line "\x7d" ++ lines (enumMethods (context.naming.fullName declaration.type))) :=
    (Page.closing_line "\x7d").settled.append (Page.settled_lines _)
  have end_weaves : Weaves context.settings.indentWidth 0 []
      (afterEnumMethods context declaration) (afterEnumMethods context declaration) :=
    (afterEnumMethods_settled context declaration).weaves _
  rw [enumBody_eq context filled, enumBody_eq context filled_without, afterEnumMethods_withoutDocs]
  exact top_weaves.above
    ((weaves_docLines_outermost declaration.doc _).append
      ((weaves_instanceVariables context declaration.type filled).append
        ((middle_settled.weaves _).above
          ((weaves_methodsSteps context declaration.methods).below end_weaves))))

/-- What an annotation type writes below the head of its protocol. -/
def afterAnnotationHead (declaration : AnnotationDeclaration) : List Page.Step :=
  (if declaration.isRuntime then properties context declaration.members else []) ++ blockEnd
    ++ (if needsClass declaration then annotationClass context declaration else [])
    ++ prefixAlias context declaration.type declaration.isTopLevel

theorem afterAnnotationHead_settled (declaration : AnnotationDeclaration) :
    Page.Settled (afterAnnotationHead context declaration) :=
  Page.settled_ite (properties_settled context declaration.members) Page.settled_nil
    |>.append blockEnd_closing.settled
    |>.append (Page.settled_ite (annotationClass_settled context declaration) Page.settled_nil)
    |>.append (prefixAlias_settled context declaration.type declaration.isTopLevel)

theorem afterAnnotationHead_withoutDocs (declaration : AnnotationDeclaration) :
    afterAnnotationHead context declaration.withoutDocs = afterAnnotationHead context declaration := by
  have needs_eq : needsClass declaration.withoutDocs = needsClass declaration := by
    simp only [needsClass, AnnotationDeclaration.withoutDocs, storedStatics_withoutDoc]
    rfl
  rw [afterAnnotationHead, needs_eq, annotationClass_withoutDocs]
  rfl

theorem weaves_annotationBody (declaration : AnnotationDeclaration) :
    Weaves context.settings.indentWidth 0 (docSites context (.ofAnnotationType declaration))
      (annotationBody context declaration) (annotationBody context declaration.withoutDocs) := by
  have body_eq (declaration : AnnotationDeclaration) : annotationBody context declaration =
      docLines declaration.doc ++ line (annotationLine context declaration)
        ++ afterAnnotationHead context declaration := by
    simp [annotationBody, annotationProtocol, annotationLine, afterAnnotationHead]
  rw [body_eq, body_eq, afterAnnotationHead_withoutDocs]
  exact (weaves_docLine declaration.doc _).below
    ((afterAnnotationHead_settled context declaration).weaves _)

/-- The text of a declaration differs from that without comments by the comments of its sites. -/
theorem weaves_declarationEmission {declaration : Declaration}
    (sound : (opening context declaration).fault = none) :
    Weaves context.settings.indentWidth 0 (docSites context declaration)
      (declarationEmission context declaration).steps
      (declarationEmission context declaration.withoutDocs).steps := by
  have filled := fragments_ne_nil_of_opening sound
  have sound_without : (opening context declaration.withoutDocs).fault = none := by
    rw [opening_withoutDocs, sound]
  rw [declarationEmission_of_sound sound, declarationEmission_of_sound sound_without,
    opening_withoutDocs]
  refine ((opening_settled context declaration).weaves _).above ?_
  cases declaration with
  | ofType declaration => exact weaves_typeBody context filled
  | ofEnum declaration => exact weaves_enumBody context filled
  | ofAnnotationType declaration => exact weaves_annotationBody context declaration

/-! ## Units -/

theorem opening_fault_withoutDocs {unit : SourceUnit}
    (sound : ∀ declaration ∈ unit.declarations, (opening context declaration).fault = none) :
    ∀ declaration ∈ unit.withoutDocs.declarations, (opening context declaration).fault = none := by
  simpa [SourceUnit.withoutDocs, opening_withoutDocs] using sound

theorem weaves_unitEmission {unit : SourceUnit}
    (sound : ∀ declaration ∈ unit.declarations, (opening context declaration).fault = none) :
    Weaves context.settings.indentWidth 0 (unitSites context unit) (unitEmission context unit).steps
      (unitEmission context unit.withoutDocs).steps := by
  have declarations_eq : unit.withoutDocs.declarations =
      unit.declarations.map Declaration.withoutDocs := rfl
  have source_eq : unit.withoutDocs.sourceFile = unit.sourceFile := rfl
  rw [unitEmission_steps_of_sound sound,
    unitEmission_steps_of_sound (opening_fault_withoutDocs context sound), collect_withoutDocs,
    mainName_withoutDocs, declarations_eq, List.flatMap_map, source_eq]
  have epilogue_settled : Page.Settled (epilogue context (context.naming.mainName unit)) :=
    (markingLines_settled context _).newline_cons.settled.append (Page.closing_line _).settled
  refine (Page.writes_text _).weaves.above (((prologue_settled context _ _).weaves _).above ?_)
  refine Weaves.below (.flatMap fun declaration declaration_mem => ?_) (epilogue_settled.weaves _)
  exact Page.writes_newline.weaves.above
    (weaves_declarationEmission context (sound declaration declaration_mem))

/-- Comments only add lines: each that shows stands whole right above what it belongs to, and all else,
or the fault, is as it would be without them. -/
theorem generate_withoutDocs (unit : SourceUnit) :
    (∀ fault, generate context unit = .error fault ↔
      generate context unit.withoutDocs = .error fault) ∧
    ∀ text, generate context unit = .ok text → ∃ plain,
      generate context unit.withoutDocs = .ok plain ∧
      Woven (unitSites context unit) (Text.split '\n' text) (Text.split '\n' plain) ∧
      (Text.split '\n' plain).Sublist (Text.split '\n' text) ∧
      (Text.split '\n' text).Perm
        (Text.split '\n' plain ++ (unitSites context unit).flatMap Site.comment) ∧
      ∀ comment ≠ [], (∃ site ∈ unitSites context unit, site.comment = comment) ↔
        ∃ declaration ∈ unit.declarations, ∃ spaces doc,
          DocShown context declaration spaces doc ∧ comment = docTexts spaces doc := by
  constructor
  · intro fault
    rw [generate_eq_error_iff, generate_eq_error_iff, SourceUnit.withoutDocs, List.findSome?_map]
    simp only [Function.comp_def, opening_withoutDocs]
  · intro text generated
    obtain ⟨sound, rfl⟩ := (generate_eq_ok_iff context unit text).mp generated
    have woven := (weaves_unitEmission context sound).split_render
    refine ⟨_, (generate_eq_ok_iff context unit.withoutDocs _).mpr
      ⟨opening_fault_withoutDocs context sound, rfl⟩, woven, woven.sublist, woven.perm, ?_⟩
    intro comment nonempty
    have shown_iff : ∀ declaration ∈ unit.declarations,
        (∃ site ∈ docSites context declaration, site.comment = comment) ↔
          ∃ spaces doc, DocShown context declaration spaces doc ∧ comment = docTexts spaces doc :=
      fun declaration declaration_mem => comment_mem_docSites_iff context
        (fragments_ne_nil_of_opening (sound declaration declaration_mem)) nonempty
    constructor
    · rintro ⟨site, site_mem, comment_eq⟩
      obtain ⟨declaration, declaration_mem, site_mem⟩ := List.mem_flatMap.mp site_mem
      exact ⟨declaration, declaration_mem,
        (shown_iff declaration declaration_mem).mp ⟨site, site_mem, comment_eq⟩⟩
    · rintro ⟨declaration, declaration_mem, shown⟩
      obtain ⟨site, site_mem, comment_eq⟩ := (shown_iff declaration declaration_mem).mpr shown
      exact ⟨site, List.mem_flatMap.mpr ⟨declaration, declaration_mem, site_mem⟩, comment_eq⟩

end

/-- An interface whose line is left open before a method with a comment, and a deprecated class with
comments of its own, of a field and of a static field. -/
def lanternUnit : SourceUnit :=
  let int := TypeRef.ofPrimitive .int
  let void := TypeRef.ofPrimitive .void
  { sourceFile := "Lantern.java"
    declarations :=
      [.ofType
        { type := .declared "" "Light" .interfaceType
          interfaces := [.declared "" "Glow" .interfaceType]
          methods :=
            [{ signature := { name := "shine", returnType := void }, doc := some "\nShines.\n" }] },
       .ofType
        { type := .declared "" "Lantern" .classType
          annotations := [⟨"Deprecated"⟩]
          doc := some "A lantern.\n\nWith a wick.\n\n"
          fields :=
            [{ type := int, doc := some "Its height.\n\nIn inches."
               fragments := [{ name := "height", type := int }] },
             { type := int, doc := some "Not shown.", modifiers := { isStatic := true }
               fragments :=
                [{ name := "count", type := int, modifiers := { isStatic := true } }] }] }] }

theorem generate_withoutDocs_of_lantern :
    ∃ text plain, generate {} lanternUnit = .ok text ∧
      generate {} lanternUnit.withoutDocs = .ok plain ∧
      (Text.split '\n' text).Perm (Text.split '\n' plain ++
        ["", "Shines.", "A lantern.", "", "With a wick.", "  Its height.", "", "  In inches."]) := by
  have sound : ∀ declaration ∈ lanternUnit.declarations,
      (opening {} declaration).fault = none := by decide
  have generated := (generate_eq_ok_iff {} lanternUnit _).mpr ⟨sound, rfl⟩
  obtain ⟨-, added⟩ := generate_withoutDocs {} lanternUnit
  obtain ⟨plain, plain_generated, -, -, perm, -⟩ := added _ generated
  have comments_eq : (unitSites {} lanternUnit).flatMap Site.comment =
      ["", "Shines.", "A lantern.", "", "With a wick.", "  Its height.", "", "  In inches."] := by
    decide +kernel
  rw [comments_eq] at perm
  exact ⟨_, plain, generated, plain_generated, perm⟩

end HeaderForge.Header
