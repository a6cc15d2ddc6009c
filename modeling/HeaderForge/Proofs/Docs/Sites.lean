import HeaderForge.Proofs.Brackets.Parts
import HeaderForge.Proofs.Docs.Weaving

/-!
# Sites of comments

Where comments stand in the text of a declaration: above its head, above the fields of its objects and
above the methods of its main block. These are the comments that show.
-/

namespace HeaderForge.Header

open Page (spaces Site)

/-! ## Sites of comments -/

/-- The lines of a comment behind a number of spaces, without the line feeds at its end. -/
def docTexts (spaces : Nat) (doc : String) : List String :=
  (Text.split '\n' (Text.trimEnd '\n' doc)).map (Page.indentedLine spaces)

/-- The place for a comment above texts that stand behind a number of spaces. -/
def docSite (doc : Option String) (spaces : Nat) (texts : List String) : Site where
  comment := (doc.map (docTexts spaces)).getD []
  commented := (texts.flatMap (Text.split '\n')).map (Page.indentedLine spaces)

section

variable (context : Context)

/-- The line that marks a deprecated declaration, as a list of texts. -/
def deprecatedTexts (deprecated : Bool) : List String :=
  if context.marks deprecated then [SupportLibrary.deprecatedAttribute] else []

/-- The line that begins the protocol of an interface. -/
def protocolLine (declaration : TypeDeclaration) : String :=
  "@protocol " ++ context.naming.fullName declaration.type
    ++ adopting (declaration.interfaces.map context.naming.fullName ++ rootProtocols)

/-- The line that begins the protocol of an annotation type. -/
def annotationLine (declaration : AnnotationDeclaration) : String :=
  "@protocol " ++ context.naming.fullName declaration.type
    ++ adopting [SupportLibrary.annotationProtocol]

/-- The texts that begin a declaration: its mark if it is deprecated, and the head of its block. -/
def headTexts : Declaration → List String
  | .ofType declaration =>
    deprecatedTexts context (isDeprecated declaration.annotations)
      ++ [if declaration.isInterface then protocolLine context declaration
          else classLine context declaration]
  | .ofEnum declaration =>
    deprecatedTexts context (isDeprecated declaration.annotations) ++ [enumLine context declaration]
  | .ofAnnotationType declaration => [annotationLine context declaration]

/-- The place for the comment of a field of the objects, one level inside. -/
def fieldSites (field : Field) : List Site :=
  match field.fragments with
  | [] => []
  | lead :: _ =>
    [docSite field.doc (spaces 1 context.settings.indentWidth)
      [variablesLine context lead field.fragments]]

/-- The place for the comment of a method, if the main block declares it. -/
def methodSites (method : Method) : List Site :=
  match methodLine? context method with
  | none => []
  | some text => [docSite method.doc 0 [text]]

/-- Annotation types have no methods in their block. -/
def declaresMethods : Declaration → Bool
  | .ofType _ => true
  | .ofEnum _ => true
  | .ofAnnotationType _ => false

/-- The places for the comments of a declaration: above its mark and head, above the fields of its
objects, and above the methods of its main block. -/
def docSites (declaration : Declaration) : List Site :=
  docSite declaration.doc 0 (headTexts context declaration) ::
    ((if declaration.hasObjects then
        (instanceFields declaration.fields).flatMap (fieldSites context) else [])
      ++ if declaresMethods declaration then declaration.methods.flatMap (methodSites context)
        else [])

/-- The places for the comments of a unit. -/
def unitSites (unit : SourceUnit) : List Site := unit.declarations.flatMap (docSites context)

end

/-! ## Comments that show -/

/-- The comments that show in the text of a declaration, each with the spaces before its lines. -/
inductive DocShown (context : Context) (declaration : Declaration) : Nat → String → Prop
  | ofDeclaration {doc : String} (doc_eq : declaration.doc = some doc) :
      DocShown context declaration 0 doc
  | ofField {field : Field} {doc : String} (objects : declaration.hasObjects = true)
      (field_mem : field ∈ declaration.fields) (nonstatic : field.modifiers.isStatic = false)
      (doc_eq : field.doc = some doc) :
      DocShown context declaration (spaces 1 context.settings.indentWidth) doc
  | ofMethod {method : Method} {text doc : String} (main : declaresMethods declaration = true)
      (method_mem : method ∈ declaration.methods) (declared : methodLine? context method = some text)
      (doc_eq : method.doc = some doc) :
      DocShown context declaration 0 doc

section

variable (context : Context)

theorem comment_docSite_iff {doc : Option String} {spaces : Nat} {texts comment : List String}
    (nonempty : comment ≠ []) :
    (docSite doc spaces texts).comment = comment ↔
      ∃ shown, doc = some shown ∧ comment = docTexts spaces shown := by
  cases doc with
  | none => simp [docSite, nonempty.symm]
  | some doc => simp [docSite, eq_comm]

theorem comment_mem_fieldSites_iff {field : Field} {comment : List String}
    (filled : field.fragments ≠ []) (nonempty : comment ≠ []) :
    (∃ site ∈ fieldSites context field, site.comment = comment) ↔
      ∃ doc, field.doc = some doc ∧
        comment = docTexts (spaces 1 context.settings.indentWidth) doc := by
  unfold fieldSites
  cases fragments_eq : field.fragments with
  | nil => exact absurd fragments_eq filled
  | cons lead rest => simp [comment_docSite_iff nonempty]

theorem comment_mem_methodSites_iff {method : Method} {comment : List String}
    (nonempty : comment ≠ []) :
    (∃ site ∈ methodSites context method, site.comment = comment) ↔
      ∃ text, methodLine? context method = some text ∧
        ∃ doc, method.doc = some doc ∧ comment = docTexts 0 doc := by
  unfold methodSites
  cases methodLine? context method with
  | none => simp
  | some text => simp [comment_docSite_iff nonempty]

/-- The comments at the sites of a declaration are those that show. -/
theorem comment_mem_docSites_iff {declaration : Declaration} {comment : List String}
    (filled : ∀ field ∈ declaration.fields, field.fragments ≠ []) (nonempty : comment ≠ []) :
    (∃ site ∈ docSites context declaration, site.comment = comment) ↔
      ∃ spaces doc, DocShown context declaration spaces doc ∧ comment = docTexts spaces doc := by
  constructor
  · rintro ⟨site, site_mem, comment_eq⟩
    rw [docSites, List.mem_cons, List.mem_append] at site_mem
    rcases site_mem with rfl | site_mem | site_mem
    · obtain ⟨doc, doc_eq, comment_eq⟩ := (comment_docSite_iff nonempty).mp comment_eq
      exact ⟨0, doc, .ofDeclaration doc_eq, comment_eq⟩
    · split at site_mem
      · next objects =>
          obtain ⟨field, field_mem, site_mem⟩ := List.mem_flatMap.mp site_mem
          obtain ⟨field_mem, nonstatic⟩ := List.mem_filter.mp field_mem
          obtain ⟨doc, doc_eq, comment_eq⟩ :=
            (comment_mem_fieldSites_iff context (filled field field_mem) nonempty).mp
              ⟨site, site_mem, comment_eq⟩
          exact ⟨_, doc, .ofField objects field_mem (by simpa using nonstatic) doc_eq, comment_eq⟩
      · cases site_mem
    · split at site_mem
      · next main =>
          obtain ⟨method, method_mem, site_mem⟩ := List.mem_flatMap.mp site_mem
          obtain ⟨text, declared, doc, doc_eq, comment_eq⟩ :=
            (comment_mem_methodSites_iff context nonempty).mp ⟨site, site_mem, comment_eq⟩
          exact ⟨0, doc, .ofMethod main method_mem declared doc_eq, comment_eq⟩
      · cases site_mem
  · rintro ⟨spaces, doc, shown, comment_eq⟩
    cases shown with
    | ofDeclaration doc_eq =>
        exact ⟨_, List.mem_cons_self, (comment_docSite_iff nonempty).mpr ⟨doc, doc_eq, comment_eq⟩⟩
    | @ofField field _ objects field_mem nonstatic doc_eq =>
        obtain ⟨site, site_mem, site_eq⟩ :=
          (comment_mem_fieldSites_iff context (filled field field_mem) nonempty).mpr
            ⟨doc, doc_eq, comment_eq⟩
        refine ⟨site, List.mem_cons_of_mem _ (List.mem_append_left _ ?_), site_eq⟩
        have instance_mem : field ∈ instanceFields declaration.fields :=
          List.mem_filter.mpr ⟨field_mem, by simpa using nonstatic⟩
        rw [if_pos objects]
        exact List.mem_flatMap.mpr ⟨field, instance_mem, site_mem⟩
    | @ofMethod method text _ main method_mem declared doc_eq =>
        obtain ⟨site, site_mem, site_eq⟩ :=
          (comment_mem_methodSites_iff context nonempty).mpr
            ⟨text, declared, doc, doc_eq, comment_eq⟩
        refine ⟨site, List.mem_cons_of_mem _ (List.mem_append_right _ ?_), site_eq⟩
        rw [if_pos main]
        exact List.mem_flatMap.mpr ⟨method, method_mem, site_mem⟩

end

end HeaderForge.Header
