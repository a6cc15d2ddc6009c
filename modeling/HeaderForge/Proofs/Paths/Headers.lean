import HeaderForge.CommandLine.Run
import HeaderForge.Proofs.Paths.Extensions

/-!
# Headers in their folders

The header of a source file is delivered below a folder. It is refused where its path leads upwards,
which is more often than the path of the source does: a source called by two dots and an extension has a
header path that ends in the two dots.
-/

namespace HeaderForge

open HeaderForge.Path HeaderForge.CommandLine

/-- Once its header has been generated, a unit is delivered to a folder exactly if its header path stays
inside. -/
theorem CommandLine.EmitCommand.deliver_ok_iff {command : EmitCommand} {unit : SourceUnit}
    {text : String} (to_folder : command.toStandardOutput = false)
    (generated : Header.generate command.context unit = .ok text) :
    (∃ delivery, command.deliver unit = .ok delivery) ↔ staysInside unit.headerPath = true := by
  have delivered_eq : command.deliver unit =
      if staysInside unit.headerPath = true then
        .ok (.file (command.outputFolder.getD defaultFolder) unit.headerPath text)
      else .error (.leavesFolder unit.headerPath) := by
    simp [EmitCommand.deliver, generated, to_folder]
  rw [delivered_eq]
  cases staysInside unit.headerPath <;> simp

theorem CommandLine.EmitCommand.staysInside_of_deliver {command : EmitCommand} {unit : SourceUnit}
    {folder path text : String} (delivered : command.deliver unit = .ok (.file folder path text)) :
    path = unit.headerPath ∧ staysInside unit.headerPath = true := by
  unfold EmitCommand.deliver at delivered
  split at delivered
  · cases delivered
  · split at delivered
    · cases delivered
    · split at delivered
      · next inside =>
          cases delivered
          exact ⟨rfl, inside⟩
      · cases delivered

/-- A header path leads upwards if its source path does, or if the source is called by two dots and an
extension. -/
theorem SourceUnit.parent_mem_headerPath_iff (unit : SourceUnit) :
    .parent ∈ components unit.headerPath ↔
      .parent ∈ components unit.sourceFile ∨ EndsInDotsAndExtension unit.sourceFile :=
  parent_mem_components_withExtension_iff "h" unit.sourceFile (by decide) (by decide)

theorem SourceUnit.staysInside_headerPath_iff (unit : SourceUnit) :
    staysInside unit.headerPath = true ↔
      isAbsolute unit.sourceFile = false ∧ .parent ∉ components unit.sourceFile ∧
        ¬ EndsInDotsAndExtension unit.sourceFile := by
  have absolute_eq : isAbsolute unit.headerPath = isAbsolute unit.sourceFile :=
    isAbsolute_withExtension "h" unit.sourceFile (by decide) (by decide)
  rw [staysInside_iff, absolute_eq, parent_mem_headerPath_iff, not_or]

/-- Headers are delivered below their folder exactly for relative source paths that neither lead upwards
nor end in two dots and an extension. -/
theorem SourceUnit.deliver_below (unit : SourceUnit) :
    (∀ (command : EmitCommand) (text : String), command.toStandardOutput = false →
      Header.generate command.context unit = .ok text →
      ((∃ delivery, command.deliver unit = .ok delivery) ↔
        isAbsolute unit.sourceFile = false ∧ .parent ∉ components unit.sourceFile ∧
          ¬ EndsInDotsAndExtension unit.sourceFile)) ∧
    (∀ (command : EmitCommand) (folder path text : String),
      command.deliver unit = .ok (.file folder path text) →
      LiesBelow folder (join folder path)) ∧
    (.parent ∈ components unit.headerPath ↔
      .parent ∈ components unit.sourceFile ∨ EndsInDotsAndExtension unit.sourceFile) := by
  refine ⟨?_, ?_, unit.parent_mem_headerPath_iff⟩
  · intro command text to_folder generated
    rw [EmitCommand.deliver_ok_iff to_folder generated, unit.staysInside_headerPath_iff]
  · intro command folder path text delivered
    obtain ⟨rfl, inside⟩ := EmitCommand.staysInside_of_deliver delivered
    exact liesBelow_join inside folder

/-- A unit without declarations whose path has a dot, an empty name and an extension. -/
def parcelUnit : SourceUnit where
  sourceFile := "./post//Parcel.java"

theorem SourceUnit.deliver_below_of_parcel :
    (∃ delivery, EmitCommand.deliver { file := "parcel.json" } parcelUnit = .ok delivery) ∧
      LiesBelow "." (join "." "./post//Parcel.h") ∧ .parent ∉ components parcelUnit.headerPath := by
  obtain ⟨delivered_iff, below, parent_iff⟩ := SourceUnit.deliver_below parcelUnit
  have relative : isAbsolute parcelUnit.sourceFile = false := by decide
  have no_parent : .parent ∉ components parcelUnit.sourceFile := by decide
  have no_dots : ¬ EndsInDotsAndExtension parcelUnit.sourceFile := by
    have found : fileName? parcelUnit.sourceFile = some ([".", "post", ""], "Parcel.java") := by
      decide
    rw [← endsInDots_iff found]
    decide
  refine ⟨?delivered, ?below, ?upwards⟩
  case delivered => exact (delivered_iff _ _ rfl rfl).mpr ⟨relative, no_parent, no_dots⟩
  case below => exact below { file := "parcel.json" } "." "./post//Parcel.h" _ rfl
  case upwards => exact fun upwards => (parent_iff.mp upwards).elim no_parent no_dots

/-- A unit without declarations, called by two dots and an extension. -/
def dottedUnit : SourceUnit where
  sourceFile := "..java"

/-- The source path is relative and does not lead upwards, but the header path is two dots. -/
theorem dottedUnit_leavesFolder :
    isAbsolute dottedUnit.sourceFile = false ∧ .parent ∉ components dottedUnit.sourceFile ∧
      .parent ∈ components dottedUnit.headerPath ∧
      EmitCommand.deliver { file := "dotted.json" } dottedUnit = .error (.leavesFolder "..") :=
  ⟨by decide, by decide, by decide, rfl⟩

end HeaderForge
