import HeaderForge.CommandLine.Run
import HeaderForge.Proofs.Ascending
import HeaderForge.Proofs.Brackets.Lines
import HeaderForge.Proofs.Settled

/-!
# Statements of dependencies

A header states what it depends on in ascending order of the statements, each once. The command that
lists dependencies states them one by one, in the order of the types. Several dependencies may come to
one statement, and the two orders differ, but the statements are the same.
-/

namespace HeaderForge

/-- The statements for imports, in ascending order, each once. -/
structure Import.StatedBy (render : Import → String) (entries : List Import)
    (statements : List String) : Prop where
  /-- Every statement is less than those after it. -/
  ascending : statements.Pairwise (· < ·)
  /-- The statements are those of the imports. -/
  mem_iff (statement : String) :
    statement ∈ statements ↔ ∃ entry ∈ entries, render entry = statement

theorem Import.statedBy_texts (render : Import → String) (entries : List Import) :
    StatedBy render entries (Ascending.texts (entries.map render)) := by
  constructor
  · have ascends := Ascending.ofList_ascends Ascending.textBefore_isOrder (entries.map render)
    exact ascends.imp fun earlier => of_decide_eq_true earlier
  · intro statement
    rw [Ascending.texts, Ascending.mem_ofList, List.mem_map]

/-- Stating imports one by one makes the same statements. -/
theorem Import.StatedBy.mem_map_iff {render : Import → String} {entries : List Import}
    {statements : List String} (stated : StatedBy render entries statements) (statement : String) :
    statement ∈ entries.map render ↔ statement ∈ statements := by
  rw [List.mem_map, stated.mem_iff]

namespace Page

/-- At the outermost level, the steps write the texts, each ended by a line feed. -/
structure Prints (steps : List Step) (texts : List String) : Prop where
  settled : Settled steps
  render_eq (indentWidth : Nat) : render indentWidth steps = ended texts

theorem Prints.append {first second : List Step} {above below : List String}
    (first_prints : Prints first above) (second_prints : Prints second below) :
    Prints (first ++ second) (above ++ below) := by
  refine ⟨first_prints.settled.append second_prints.settled, fun indentWidth => ?_⟩
  rw [first_prints.settled.render_append, first_prints.render_eq, second_prints.render_eq,
    ended_append]

theorem prints_lines (texts : List String) : Prints (lines texts) texts :=
  ⟨settled_lines texts, fun indentWidth => render_lines indentWidth texts⟩

theorem prints_newline : Prints [.newline] [""] := ⟨closing_newline.settled, fun _ => rfl⟩

end Page

namespace Header

open Page (line lines ended Prints prints_lines prints_newline)
open CommandLine (DepsCommand dependencyLines)

/-! ## Prologues -/

/-- The lines of a header above its statements. -/
def guardTexts (context : Context) (mainName : String) : List String :=
  ["#ifndef " ++ guardName mainName, "#define " ++ guardName mainName]
    ++ (if context.settings.marksDeprecated then
        [SupportLibrary.saveWarnings, SupportLibrary.allowDeprecated] else [])

/-- The empty line below statements, if there are any. -/
def gapBelow (statements : List String) : List Page.Step :=
  if statements = [] then [] else [.newline]

/-- The steps of a prologue with the given statements. -/
def prologueStating (context : Context) (mainName : String) (forward includes : List String) :
    List Page.Step :=
  lines (guardTexts context mainName) ++ [.newline] ++ (lines forward ++ gapBelow forward)
    ++ line SupportLibrary.importLine ++ lines includes

/-- The lines of a prologue with the given statements. -/
def prologueTexts (context : Context) (mainName : String) (forward includes : List String) :
    List String :=
  guardTexts context mainName ++ [""] ++ (forward ++ if forward = [] then [] else [""])
    ++ [SupportLibrary.importLine] ++ includes

theorem forwardLines_eq (entries : List Import) :
    forwardLines entries =
      lines (Ascending.texts (entries.map Import.forwardDeclaration))
        ++ gapBelow (Ascending.texts (entries.map Import.forwardDeclaration)) := by
  unfold forwardLines gapBelow
  cases Ascending.texts (entries.map Import.forwardDeclaration) with
  | nil => rfl
  | cons first rest => rfl

theorem lines_guardTexts (context : Context) (mainName : String) :
    lines (guardTexts context mainName) =
      lines ["#ifndef " ++ guardName mainName, "#define " ++ guardName mainName]
        ++ markingLines context [SupportLibrary.saveWarnings, SupportLibrary.allowDeprecated] := by
  unfold guardTexts markingLines
  cases context.settings.marksDeprecated with
  | true => rfl
  | false => rfl

theorem prologue_eq_stating (context : Context) (mainName : String) (dependencies : Dependencies) :
    prologue context mainName dependencies =
      prologueStating context mainName
        (Ascending.texts (dependencies.forward.map Import.forwardDeclaration))
        (Ascending.texts (dependencies.superTypes.map Import.includeStatement)) := by
  rw [prologue, prologueStating, lines_guardTexts, forwardLines_eq]
  simp only [List.append_assoc, List.cons_append, List.nil_append]

theorem prints_gapBelow (statements : List String) :
    Prints (gapBelow statements) (if statements = [] then [] else [""]) := by
  unfold gapBelow
  split
  · exact prints_lines []
  · exact prints_newline

theorem prints_prologueStating (context : Context) (mainName : String)
    (forward includes : List String) :
    Prints (prologueStating context mainName forward includes)
      (prologueTexts context mainName forward includes) :=
  prints_lines (guardTexts context mainName)
    |>.append prints_newline
    |>.append ((prints_lines forward).append (prints_gapBelow forward))
    |>.append (prints_lines [SupportLibrary.importLine])
    |>.append (prints_lines includes)

theorem written_prologue (context : Context) (mainName : String) (dependencies : Dependencies) :
    written context (prologue context mainName dependencies) =
      ended (prologueTexts context mainName
        (Ascending.texts (dependencies.forward.map Import.forwardDeclaration))
        (Ascending.texts (dependencies.superTypes.map Import.includeStatement))) := by
  rw [prologue_eq_stating]
  exact (prints_prologueStating context mainName _ _).render_eq context.settings.indentWidth

/-! ## Listed dependencies -/

theorem deliver_eq_ended (command : DepsCommand) (unit : SourceUnit) :
    command.deliver unit =
      .standardOutput (ended (dependencyLines
        (Dependencies.collect { prefixes := command.prefixes } unit))) := rfl

/-- A prologue states its dependencies in two ascending sequences, one below the guard and one below
the import of the support library, as they are listed for the unit. -/
theorem prologue_states_dependencies (context : Context) :
    (∀ mainName dependencies, ∃ forward includes,
      Import.StatedBy Import.forwardDeclaration dependencies.forward forward ∧
        Import.StatedBy Import.includeStatement dependencies.superTypes includes ∧
        prologue context mainName dependencies =
          prologueStating context mainName forward includes) ∧
      ∀ (unit : SourceUnit) (text : String), generate context unit = .ok text →
        ∃ forward includes listedForward listedIncludes,
          Import.StatedBy Import.forwardDeclaration
              (Dependencies.collect context.naming unit).forward forward ∧
            Import.StatedBy Import.includeStatement
              (Dependencies.collect context.naming unit).superTypes includes ∧
            text =
              context.settings.bannerFor unit.sourceFile ++ "\n"
                ++ ended (prologueTexts context (context.naming.mainName unit) forward includes)
                ++ String.join (unit.declarations.map fun declaration =>
                    "\n" ++ written context (declarationEmission context declaration).steps)
                ++ written context (epilogue context (context.naming.mainName unit)) ∧
            (∀ command : DepsCommand, command.prefixes = context.naming.prefixes →
              command.deliver unit =
                .standardOutput (ended (listedForward ++ listedIncludes))) ∧
            (∀ statement, statement ∈ listedForward ↔ statement ∈ forward) ∧
            ∀ statement, statement ∈ listedIncludes ↔ statement ∈ includes := by
  have stated (dependencies : Dependencies) :=
    And.intro (Import.statedBy_texts Import.forwardDeclaration dependencies.forward)
      (Import.statedBy_texts Import.includeStatement dependencies.superTypes)
  constructor
  · intro mainName dependencies
    exact ⟨_, _, (stated dependencies).1, (stated dependencies).2,
      prologue_eq_stating context mainName dependencies⟩
  · intro unit text generated
    obtain ⟨sound, text_eq⟩ := (generate_eq_ok_iff context unit text).mp generated
    obtain ⟨forward_stated, includes_stated⟩ := stated (Dependencies.collect context.naming unit)
    refine ⟨_, _, _, _, forward_stated, includes_stated, ?_, fun command same_prefixes => ?_,
      forward_stated.mem_map_iff, includes_stated.mem_map_iff⟩
    · rw [text_eq, ← written_prologue]
      exact written_unitEmission sound
    · rw [deliver_eq_ended, same_prefixes]
      rfl

/-- A class that extends two types nested in one other, so that both are declared in one header. -/
def basketUnit : SourceUnit where
  package := "shop"
  sourceFile := "Basket.java"
  declarations :=
    let label := TypeRef.declared "shop" "Label" .classType
    [.ofType
      { type := .declared "shop" "Basket" .classType
        superclass := some (.declared "shop" "Crate.Base" .classType)
        interfaces := [.declared "shop" "Crate.Handle" .interfaceType]
        fields := [{ type := label, fragments := [{ name := "label", type := label }] }] }]

theorem prologue_states_dependencies_of_basket :
    ∃ text forward includes listedForward listedIncludes,
      generate {} basketUnit = .ok text ∧
        DepsCommand.deliver { file := "basket.json" } basketUnit =
          .standardOutput (ended (listedForward ++ listedIncludes)) ∧
        (∃ below, text = ({} : Settings).bannerFor "Basket.java" ++ "\n"
          ++ ended (prologueTexts {} (({} : Naming).mainName basketUnit) forward includes)
          ++ below) ∧
        "@class ShopLabel;" ∈ listedForward ∧ "#include \"shop/Crate.h\"" ∈ listedIncludes ∧
        (∀ statement, statement ∈ listedIncludes ↔ statement ∈ includes) ∧
        includes.Pairwise (· < ·) := by
  have sound : ∀ declaration ∈ basketUnit.declarations,
      (opening {} declaration).fault = none := by decide
  have generated := (generate_eq_ok_iff {} basketUnit _).mpr ⟨sound, rfl⟩
  obtain ⟨forward, includes, listedForward, listedIncludes, forward_stated, includes_stated,
    text_eq, delivered, same_forward, same_includes⟩ :=
    (prologue_states_dependencies {}).2 basketUnit _ generated
  have label_mem : "@class ShopLabel;" ∈ forward :=
    (forward_stated.mem_iff _).mpr
      ⟨.ofDeclared {} (.declared "shop" "Label" .classType), by decide +kernel, by decide⟩
  have crate_mem : "#include \"shop/Crate.h\"" ∈ includes :=
    (includes_stated.mem_iff _).mpr
      ⟨.ofDeclared {} (.declared "shop" "Crate.Base" .classType), by decide +kernel, by decide⟩
  exact ⟨_, forward, includes, listedForward, listedIncludes, generated,
    delivered { file := "basket.json" } rfl, ⟨_, text_eq.trans String.append_assoc⟩,
    (same_forward _).mpr label_mem, (same_includes _).mpr crate_mem, same_includes,
    includes_stated.ascending⟩

end Header

end HeaderForge
