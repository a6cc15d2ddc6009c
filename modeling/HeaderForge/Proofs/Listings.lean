import HeaderForge.Proofs.Paths.Includes
import HeaderForge.Proofs.Statements
import Mathlib.Data.List.Nodup
import Mathlib.Data.List.Perm.Subperm

/-!
# Listed statements

The command that lists dependencies states the imports one by one. No import is listed twice, but a
statement shows only a part of its import: a declaration that a type exists shows no header, and an
include shows nothing else. So a statement is listed as often as there are imports that it does not
tell apart.
-/

namespace HeaderForge

open Page (ended)
open CommandLine (DepsCommand)

namespace Import

/-! ## What statements show -/

theorem forwardDeclaration_eq_iff (first second : Import) :
    first.forwardDeclaration = second.forwardDeclaration ↔
      first.typeName = second.typeName ∧ first.isProtocol = second.isProtocol := by
  obtain ⟨firstName, firstFile, firstKind⟩ := first
  obtain ⟨secondName, secondFile, secondKind⟩ := second
  have kinds_differ (left right : String) : "@protocol " ++ left ++ ";" ≠ "@class " ++ right ++ ";" := by
    intro same
    have second_char := congrArg (fun text => text.toList[1]?) same
    simp at second_char
  cases firstKind with
  | true =>
      cases secondKind with
      | true => simp [forwardDeclaration]
      | false => simpa [forwardDeclaration] using kinds_differ firstName secondName
  | false =>
      cases secondKind with
      | true => simpa [forwardDeclaration] using (kinds_differ secondName firstName).symm
      | false => simp [forwardDeclaration]

theorem includeStatement_eq_iff (first second : Import) :
    first.includeStatement = second.includeStatement ↔ first.file = second.file := by
  simp [includeStatement]

theorem forwardDeclaration_ne_includeStatement (first second : Import) :
    first.forwardDeclaration ≠ second.includeStatement := by
  intro same
  have first_char := congrArg (fun text => text.toList.head?) same
  obtain ⟨name, file, kind⟩ := first
  cases kind with
  | true => simp [forwardDeclaration, includeStatement] at first_char
  | false => simp [forwardDeclaration, includeStatement] at first_char

end Import

/-- What two values of a list have in common is there twice. -/
theorem two_le_count_map [DecidableEq β] {render : α → β} {values : List α} {first second : α}
    (first_mem : first ∈ values) (second_mem : second ∈ values) (different : first ≠ second)
    (same : render first = render second) : 2 ≤ (values.map render).count (render first) := by
  have pair_nodup : [first, second].Nodup := by simpa using different
  have pair_within : [first, second].Subperm values :=
    pair_nodup.subperm (by simp [first_mem, second_mem])
  have pair_count : [first, second].countP (fun value => render value == render first) = 2 := by
    simp [same]
  rw [List.count_eq_countP, List.countP_map, ← pair_count]
  exact pair_within.countP_le _

namespace Dependencies

/-- The declarations that types exist are distinct exactly if, of the types that are mentioned and not
included, those with one name and kind are declared in one header. -/
theorem nodup_forwardDeclarations_iff (naming : Naming) (unit : SourceUnit) :
    ((collect naming unit).forward.map Import.forwardDeclaration).Nodup ↔
      ∀ first second, MentionedImport naming unit first → MentionedImport naming unit second →
        (∀ other, SuperTypeImport naming unit other → other.typeName ≠ first.typeName) →
        first.typeName = second.typeName → first.isProtocol = second.isProtocol →
        first.file = second.file := by
  rw [List.nodup_map_iff_inj_on ((forward_ascends naming unit).nodup Import.before_isOrder)]
  simp only [mem_forward_iff, Import.forwardDeclaration_eq_iff]
  constructor
  · intro distinct first second first_mentioned second_mentioned not_included same_name same_kind
    have second_not_included := same_name ▸ not_included
    exact congrArg Import.file (distinct first ⟨first_mentioned, not_included⟩ second
      ⟨second_mentioned, second_not_included⟩ ⟨same_name, same_kind⟩)
  · rintro same_file ⟨name, file, kind⟩ ⟨first_mentioned, not_included⟩ second
      ⟨second_mentioned, -⟩ ⟨rfl, rfl⟩
    obtain rfl := same_file _ second first_mentioned second_mentioned not_included rfl rfl
    rfl

/-- The includes are distinct exactly if no header declares two of the types that are extended or
adopted. -/
theorem nodup_includeStatements_iff (naming : Naming) (unit : SourceUnit) :
    ((collect naming unit).superTypes.map Import.includeStatement).Nodup ↔
      ∀ first second, SuperTypeImport naming unit first → SuperTypeImport naming unit second →
        first.file = second.file → first = second := by
  rw [List.nodup_map_iff_inj_on ((superTypes_ascends naming unit).nodup Import.before_isOrder)]
  simp only [mem_superTypes_iff, Import.includeStatement_eq_iff]
  exact ⟨fun distinct first second first_mem second_mem => distinct first first_mem second second_mem,
    fun distinct first first_mem second second_mem => distinct first second first_mem second_mem⟩

/-- The header of a type is included twice for two types that are nested in it. -/
theorem two_le_count_includeStatement {naming : Naming} {unit : SourceUnit} {outer first second : TypeRef}
    (first_within : first.LiesWithin outer) (second_within : second.LiesWithin outer)
    (first_collected : SuperTypeImport naming unit (.ofDeclared naming first))
    (second_collected : SuperTypeImport naming unit (.ofDeclared naming second))
    (different : naming.fullName first ≠ naming.fullName second) :
    2 ≤ ((collect naming unit).superTypes.map Import.includeStatement).count
      (Import.ofDeclared naming first).includeStatement := by
  have first_mem := (mem_superTypes_iff naming unit _).mpr first_collected
  have second_mem := (mem_superTypes_iff naming unit _).mpr second_collected
  refine two_le_count_map first_mem second_mem ?_ ?_
  · exact fun same => different (congrArg Import.typeName same)
  · rw [Import.includeStatement_eq_iff]
    exact first_within.fileOf_eq.trans second_within.fileOf_eq.symm

end Dependencies

namespace CommandLine.DepsCommand

/-- Dependencies are listed without repetition exactly if types of one name and kind are declared in one
header, and included types in headers of their own. -/
theorem deliver_distinct_iff (command : DepsCommand) (unit : SourceUnit) :
    let naming : Naming := { prefixes := command.prefixes }
    let forward := (Dependencies.collect naming unit).forward.map Import.forwardDeclaration
    let includes := (Dependencies.collect naming unit).superTypes.map Import.includeStatement
    command.deliver unit = .standardOutput (ended (forward ++ includes)) ∧
      (∀ statement ∈ forward, statement ∉ includes) ∧
      (forward.Nodup ↔
        ∀ first second, MentionedImport naming unit first → MentionedImport naming unit second →
          (∀ other, SuperTypeImport naming unit other → other.typeName ≠ first.typeName) →
          first.typeName = second.typeName → first.isProtocol = second.isProtocol →
          first.file = second.file) ∧
      (includes.Nodup ↔
        ∀ first second, SuperTypeImport naming unit first → SuperTypeImport naming unit second →
          first.file = second.file → first = second) ∧
      ∀ outer first second : TypeRef, first.LiesWithin outer → second.LiesWithin outer →
        SuperTypeImport naming unit (.ofDeclared naming first) →
        SuperTypeImport naming unit (.ofDeclared naming second) →
        naming.fullName first ≠ naming.fullName second →
        2 ≤ includes.count (Import.ofDeclared naming first).includeStatement := by
  intro naming forward includes
  refine ⟨rfl, ?_, Dependencies.nodup_forwardDeclarations_iff naming unit,
    Dependencies.nodup_includeStatements_iff naming unit, ?_⟩
  · intro statement forward_mem include_mem
    obtain ⟨first, -, rfl⟩ := List.mem_map.mp forward_mem
    obtain ⟨second, -, same⟩ := List.mem_map.mp include_mem
    exact Import.forwardDeclaration_ne_includeStatement first second same.symm
  · intro outer first second first_within second_within first_collected second_collected different
    exact Dependencies.two_le_count_includeStatement first_within second_within first_collected
      second_collected different

/-- The basket extends a type nested in the crate and adopts another. -/
theorem deliver_distinct_iff_of_basket :
    let crate : TypeRef := .declared "shop" "Crate" .classType
    let base : TypeRef := .declared "shop" "Crate.Base" .classType
    let handle : TypeRef := .declared "shop" "Crate.Handle" .interfaceType
    let dependencies := Dependencies.collect {} Header.basketUnit
    base.LiesWithin crate ∧ handle.LiesWithin crate ∧
      2 ≤ (dependencies.superTypes.map Import.includeStatement).count "#include \"shop/Crate.h\"" ∧
      (dependencies.forward.map Import.forwardDeclaration).Nodup := by
  intro crate base handle dependencies
  have base_within : base.LiesWithin crate := ⟨rfl, rfl, .inr ⟨"Base", by decide⟩⟩
  have handle_within : handle.LiesWithin crate := ⟨rfl, rfl, .inr ⟨"Handle", by decide⟩⟩
  obtain ⟨-, -, -, -, nested⟩ := deliver_distinct_iff { file := "basket.json" } Header.basketUnit
  have twice := nested crate base handle base_within handle_within
    (.superclass List.mem_cons_self rfl (by decide))
    (.interface List.mem_cons_self List.mem_cons_self (by decide)) (by decide)
  have include_eq : (Import.ofDeclared {} base).includeStatement = "#include \"shop/Crate.h\"" := by
    decide
  rw [include_eq] at twice
  exact ⟨base_within, handle_within, twice, by decide +kernel⟩

/-- A class that mentions a nested type and a type that has its name in headers. -/
def wagonUnit : SourceUnit where
  package := "rail"
  sourceFile := "rail/Wagon.java"
  declarations :=
    let nested := TypeRef.declared "rail" "Bogie.Wheel" .classType
    let other := TypeRef.declared "rail" "Bogie_Wheel" .classType
    [.ofType
      { type := .declared "rail" "Wagon" .classType
        fields :=
          [{ type := nested, fragments := [{ name := "front", type := nested }] },
            { type := other, fragments := [{ name := "back", type := other }] }] }]

/-- Neither the includes nor the declarations that types exist are always distinct. -/
theorem statements_listed_twice :
    deliver { file := "basket.json" } Header.basketUnit =
        .standardOutput (ended
          ["@class ShopLabel;", "#include \"shop/Crate.h\"", "#include \"shop/Crate.h\""]) ∧
      deliver { file := "wagon.json" } wagonUnit =
        .standardOutput (ended ["@class RailBogie_Wheel;", "@class RailBogie_Wheel;"]) := by
  decide +kernel

end CommandLine.DepsCommand

end HeaderForge
