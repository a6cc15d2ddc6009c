import HeaderForge.Proofs.Settled

/-!
# Calls of single parts

Every part of a header can be called for by itself, on any page. Whether the call succeeds or meets a
fault, it leaves the level of indentation as it was, and a line begins behind it if one began before.
After any calls a part is therefore written as on a new page at that level.
-/

namespace HeaderForge.Header

/-- A call for a part of a header. -/
inductive Call where
  /-- A comment. -/
  | doc (text : Option String)
  /-- The line that marks a deprecated declaration. -/
  | deprecatedLine (deprecated : Bool)
  /-- The check that every field declares a variable. -/
  | checkFields (declaring : TypeRef) (fields : List Field)
  /-- The definitions of constants. -/
  | constantDefinitions (declaring : TypeRef) (fields : List Field)
  /-- The variables of objects. -/
  | instanceVariables (declaring : TypeRef) (fields : List Field)
  /-- One method. -/
  | method (method : Method)
  /-- Several methods. -/
  | methods (methods : List Method)
  /-- The setup of a type. -/
  | staticInit (declaring : TypeRef) (methods : List Method)
  /-- One variable of a type. -/
  | staticVariable (declaring : TypeRef) (var : Variable)
  /-- All variables of a type. -/
  | staticVariables (declaring : TypeRef) (fields : List Field)
  /-- The setters of variables of objects. -/
  | fieldSetters (declaring : TypeRef) (fields : List Field)
  /-- The macro that counts up and down. -/
  | boxedSteps (declaring : TypeRef)
  /-- The alias of a type. -/
  | prefixAlias (declaring : TypeRef) (isTopLevel : Bool)
  /-- The beginning of a header. -/
  | prologue (mainName : String) (dependencies : Dependencies)
  /-- The end of a header. -/
  | epilogue (mainName : String)
  /-- A whole declaration of any form. -/
  | declaration (declaration : Declaration)

namespace Call

/-- What a call writes, and the fault it meets, if any. -/
def emission (context : Context) : Call → Emission
  | doc text => ⟨docLines text, none⟩
  | deprecatedLine deprecated => ⟨Header.deprecatedLine context deprecated, none⟩
  | checkFields declaring fields => Header.checkFields context declaring fields
  | constantDefinitions declaring fields => Header.constantDefinitions context declaring fields
  | instanceVariables declaring fields => Header.instanceVariables context declaring fields
  | method single => ⟨methodSteps context single, none⟩
  | methods several => ⟨methodsSteps context several, none⟩
  | staticInit declaring several => ⟨Header.staticInit context declaring several, none⟩
  | staticVariable declaring var => ⟨Header.staticVariable context declaring var, none⟩
  | staticVariables declaring fields => ⟨Header.staticVariables context declaring fields, none⟩
  | fieldSetters declaring fields => ⟨Header.fieldSetters context declaring fields, none⟩
  | boxedSteps declaring => ⟨Header.boxedSteps context declaring, none⟩
  | prefixAlias declaring isTopLevel => ⟨Header.prefixAlias context declaring isTopLevel, none⟩
  | prologue mainName dependencies => ⟨Header.prologue context mainName dependencies, none⟩
  | epilogue mainName => ⟨Header.epilogue context mainName, none⟩
  | declaration whole => declarationEmission context whole

/-- The page behind a call, also behind one that met a fault. -/
def pageAfter (context : Context) (page : Page) (call : Call) : Page :=
  page.run (call.emission context).steps

/-- The page behind calls in a row. The fault of one does not keep the next from writing. -/
def pageAfterAll (context : Context) (page : Page) (calls : List Call) : Page :=
  calls.foldl (pageAfter context) page

theorem emission_settled (context : Context) (call : Call) : (call.emission context).Settled := by
  cases call with
  | doc text => exact docLines_settled text
  | deprecatedLine deprecated => exact deprecatedLine_settled context deprecated
  | checkFields declaring fields => exact Page.settled_nil
  | constantDefinitions declaring fields => exact constantDefinitions_settled context declaring fields
  | instanceVariables declaring fields => exact instanceVariables_settled context declaring fields
  | method single => exact methodSteps_settled context single
  | methods several => exact methodsSteps_settled context several
  | staticInit declaring several => exact (staticInit_closing context declaring several).settled
  | staticVariable declaring var => exact (Page.settled_lines _).newline_cons.settled
  | staticVariables declaring fields => exact staticVariables_settled context declaring fields
  | fieldSetters declaring fields => exact fieldSetters_settled context declaring fields
  | boxedSteps declaring => exact boxedSteps_settled context declaring
  | prefixAlias declaring isTopLevel => exact prefixAlias_settled context declaring isTopLevel
  | prologue mainName dependencies => exact prologue_settled context mainName dependencies
  | epilogue mainName =>
      exact (markingLines_settled context _).newline_cons.settled.append (Page.closing_line _).settled
  | declaration whole => exact declarationEmission_settled context whole

theorem pageAfterAll_level (context : Context) (page : Page) (calls : List Call) :
    (pageAfterAll context page calls).level = page.level := by
  induction calls generalizing page with
  | nil => rfl
  | cons call rest ih =>
      exact (ih (pageAfter context page call)).trans
        ((call.emission_settled context).keepsLevel page)

theorem pageAfterAll_indentWidth (context : Context) (page : Page) (calls : List Call) :
    (pageAfterAll context page calls).indentWidth = page.indentWidth := by
  induction calls generalizing page with
  | nil => rfl
  | cons call rest ih =>
      exact (ih (pageAfter context page call)).trans (Page.run_indentWidth page _)

theorem pageAfterAll_atLineStart (context : Context) {page : Page} (atStart : page.atLineStart = true)
    (calls : List Call) : (pageAfterAll context page calls).atLineStart = true := by
  induction calls generalizing page with
  | nil => exact atStart
  | cons call rest ih => exact ih ((call.emission_settled context).keepsLineStart page atStart)

/-- A call keeps the level of any page, only appends to its text, and keeps the beginning of a line; and
so do calls in a row. -/
theorem pageAfter_balanced (context : Context) :
    (∀ (call : Call) (page : Page),
      (call.pageAfter context page).level = page.level ∧
        (call.pageAfter context page).text =
          page.text ++ (call.pageAfter context { page with text := "" }).text ∧
        (page.atLineStart = true → (call.pageAfter context page).atLineStart = true)) ∧
      ∀ (calls : List Call) (later : Call) (page : Page), page.atLineStart = true →
        (pageAfterAll context page calls).level = page.level ∧
          (pageAfterAll context page calls).atLineStart = true ∧
          (later.pageAfter context (pageAfterAll context page calls)).text =
            (pageAfterAll context page calls).text ++
              (later.pageAfter context
                { indentWidth := page.indentWidth, level := page.level }).text := by
  constructor
  · intro call page
    have settled := call.emission_settled context
    exact ⟨settled.keepsLevel page, page.run_text _, settled.keepsLineStart page⟩
  · intro calls later page atStart
    have level_eq := pageAfterAll_level context page calls
    have lineStart := pageAfterAll_atLineStart context atStart calls
    have width_eq := pageAfterAll_indentWidth context page calls
    have emptied : ({ pageAfterAll context page calls with text := "" } : Page) =
        { indentWidth := page.indentWidth, level := page.level } := by
      rw [← width_eq, ← level_eq, ← lineStart]
    refine ⟨level_eq, lineStart, ?_⟩
    rw [← emptied]
    exact Page.run_text _ _

/-- The fields of a gauge: an object variable, a field without any, and constants of which the second
is not of its declared type. -/
def brokenFields : List Field :=
  let int := TypeRef.ofPrimitive .int
  let constant (name : String) (value : Constant) : Variable :=
    { name, type := int, modifiers := .constant, constant := some value }
  [{ type := int, fragments := [{ name := "level", type := int }] },
   { type := int, fragments := [] },
   { type := int, modifiers := .constant
     fragments := [constant "LOW" (.int 0), constant "HIGH" (.long 9)] }]

/-- Two calls that stop in the middle of what they write, on a page that is already indented, do not
show in what follows. -/
theorem pageAfter_balanced_of_gauge :
    let gauge := TypeRef.declared "" "Gauge" .classType
    let page : Page := { indentWidth := 2, text := "\x7b\n", level := 1 }
    let calls := [constantDefinitions gauge brokenFields, instanceVariables gauge brokenFields]
    calls.all (fun call => (call.emission {}).fault.isSome) = true ∧
      (pageAfterAll {} page calls).text =
        "\x7b\n  #define Gauge_LOW 0\n   @public\n    int level_;\n" ∧
      ((deprecatedLine true).pageAfter {} (pageAfterAll {} page calls)).text =
        (pageAfterAll {} page calls).text ++ "  __attribute__((deprecated))\n" := by
  refine ⟨by decide, by decide, ?_⟩
  exact ((pageAfter_balanced {}).2 _ (deprecatedLine true) _ rfl).2.2

end Call

end HeaderForge.Header
