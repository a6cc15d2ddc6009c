import HeaderForge.CommandLine.Folder
import HeaderForge.Proofs.Manifest.Units

/-!
# What commands leave behind

A command to write a header is carried out whole or not at all, whatever the system of files it runs on.
Everything that can be refused is looked at before anything is printed, made or written. So as long as
the operations on files succeed, the header of the unit is all that a run leaves, printed or in one
file, and a run that fails leaves nothing.
-/

namespace HeaderForge.CommandLine

/-! ## Systems of files -/

/-- The operations on files that the program uses. Each may fail. -/
structure FileSystem (World : Type) where
  /-- The text of the file at a path. -/
  read : World → String → Option String
  /-- Makes the folder at a path and all folders on the way. -/
  makeFolders : World → String → Option World
  /-- Writes a text to the file at a path. -/
  write : World → String → String → Option World

/-- What a run of the program comes to on a system of files. -/
structure Ending (World : Type) where
  /-- The exit status. -/
  status : Nat
  /-- What is printed. -/
  output : String := ""
  /-- Why a command failed. -/
  failure : Option Failure := none
  /-- The files afterwards. -/
  world : World

section System

variable {World : Type}

/-- The ending of a command that fails: nothing is printed. -/
def Ending.failed (world : World) (failure : Failure) : Ending World :=
  { status := failureStatus, failure := some failure, world }

variable (system : FileSystem World) (world : World)

/-- Delivers on a system of files. -/
def Delivery.runOn : Delivery → Ending World
  | standardOutput text => { status := successStatus, output := text, world }
  | file root path text =>
    let target := Path.join root path
    let parent := (Path.parent? target).getD ""
    match system.makeFolders world parent with
    | none => .failed world (.making parent)
    | some made =>
      match system.write made target text with
      | none => .failed made (.writing target)
      | some written => { status := successStatus, world := written }

/-- Carries out a command on a system of files. -/
def Command.runOn (command : Command) : Ending World :=
  match system.read world command.file with
  | none => .failed world (.reading command.file)
  | some manifest =>
    match command.deliver manifest with
    | .error failure => .failed world failure
    | .ok delivery => delivery.runOn system world

end System

namespace Folder

/-- The operations on the files below a folder. -/
def system : FileSystem Folder where
  read := read?
  makeFolders := makeFolders
  write := write

@[simp] theorem system_read : system.read = read? := rfl

end Folder

/-- The ending of a run below a folder as its outcome. -/
def Ending.outcome (ending : Ending Folder) : Outcome where
  status := ending.status
  output := ending.output
  failure := ending.failure
  folder := ending.world

theorem Delivery.runIn_eq_runOn (folder : Folder) (delivery : Delivery) :
    delivery.runIn folder = (delivery.runOn Folder.system folder).outcome := by
  unfold runIn runOn
  cases delivery with
  | standardOutput text => rfl
  | file root path text =>
      dsimp only [Folder.system]
      cases folder.makeFolders ((Path.parent? (Path.join root path)).getD "") with
      | none => rfl
      | some made =>
          dsimp only
          cases made.write (Path.join root path) text with
          | none => rfl
          | some written => rfl

/-- Running in a folder is running on the system of the files below it. -/
theorem Command.runIn_eq_runOn (folder : Folder) (command : Command) :
    command.runIn folder = (command.runOn Folder.system folder).outcome := by
  rw [runIn, runOn, Folder.system_read]
  cases folder.read? command.file with
  | none => rfl
  | some manifest =>
      dsimp only
      cases command.deliver manifest with
      | error failure => rfl
      | ok delivery => exact delivery.runIn_eq_runOn folder

/-! ## Files in folders -/

namespace Folder

/-- Of two contents of a folder the second has the text at the path, and all other files are those of
the first. No folder is gone. -/
structure Rewritten (before after : Folder) (path text : String) : Prop where
  reads_back : after.read? path = some text
  others_kept : ∃ place, after.place? path = some place ∧
    ∀ other ≠ place, after.files.lookup other = before.files.lookup other
  folders_kept : before.folders ⊆ after.folders

theorem walk?_congr {first second : Folder} (same : first.folders = second.folders)
    (place : List String) (components : List Path.Component) :
    first.walk? place components = second.walk? place components := by
  have same_folders : first.hasFolder = second.hasFolder := by
    funext names
    rw [hasFolder, same, hasFolder]
  induction components generalizing place with
  | nil => rfl
  | cons component rest ih => simp only [walk?, same_folders, ih]

/-- Where a path leads is a matter of the folders alone. -/
theorem place?_congr {first second : Folder} (same : first.folders = second.folders) (path : String) :
    first.place? path = second.place? path := by
  simp only [place?, walk?_congr same]

theorem makeAlong_keeps {folder made : Folder} {place : List String}
    {components : List Path.Component} (made_eq : folder.makeAlong place components = some made) :
    made.files = folder.files ∧ folder.folders ⊆ made.folders := by
  induction components generalizing folder place with
  | nil =>
      cases made_eq
      exact ⟨rfl, List.Subset.refl _⟩
  | cons component rest ih =>
      rw [makeAlong] at made_eq
      cases next_eq : follow? place component with
      | none => simp [next_eq] at made_eq
      | some next =>
          simp only [next_eq, Option.bind_eq_bind, Option.bind_some] at made_eq
          split at made_eq
          · exact ih made_eq
          · split at made_eq
            · cases made_eq
            · obtain ⟨files_eq, folders_subset⟩ := ih made_eq
              exact ⟨files_eq, List.Subset.trans (List.subset_append_left _ _) folders_subset⟩

theorem makeFolders_keeps {folder made : Folder} {path : String}
    (made_eq : folder.makeFolders path = some made) :
    made.files = folder.files ∧ folder.folders ⊆ made.folders := by
  unfold makeFolders at made_eq
  split at made_eq
  · exact makeAlong_keeps made_eq
  · cases made_eq

theorem lookup_replaced (files : List (List String × String)) (place : List String) (text : String) :
    ((files.filter fun file => file.1 ≠ place) ++ [(place, text)]).lookup place = some text := by
  have not_kept : (files.filter fun file => file.1 ≠ place).lookup place = none := by
    rw [List.lookup_eq_none_iff]
    intro file file_mem
    have kept : file.1 ≠ place := by simpa using (List.mem_filter.mp file_mem).2
    simpa using kept.symm
  rw [List.lookup_append, not_kept, Option.none_or, List.lookup_cons_self]

theorem lookup_filter_of_ne (files : List (List String × String)) {place other : List String}
    (differs : other ≠ place) :
    (files.filter fun file => file.1 ≠ place).lookup other = files.lookup other := by
  induction files with
  | nil => rfl
  | cons file files ih =>
      by_cases same : file.1 = place
      · have other_differs : (other == file.1) = false := by simpa [same] using differs
        rw [List.filter_cons_of_neg (by simpa using same), ih, List.lookup_cons, other_differs]
      · rw [List.filter_cons_of_pos (by simpa using same), List.lookup_cons, List.lookup_cons, ih]

theorem lookup_of_other (files : List (List String × String)) {place other : List String}
    (differs : other ≠ place) (text : String) :
    ((files.filter fun file => file.1 ≠ place) ++ [(place, text)]).lookup other =
      files.lookup other := by
  have not_written : [(place, text)].lookup other = none := by
    simpa [List.lookup_eq_none_iff] using differs
  rw [List.lookup_append, not_written, Option.or_none, lookup_filter_of_ne files differs]

/-- Writing a file after the folders for it have been made changes that file only. -/
theorem rewritten_of_write {folder made written : Folder} {parent target text : String}
    (made_eq : folder.makeFolders parent = some made)
    (written_eq : made.write target text = some written) :
    folder.Rewritten written target text := by
  obtain ⟨files_eq, folders_subset⟩ := makeFolders_keeps made_eq
  cases place_eq : made.place? target with
  | none => simp [write, place_eq] at written_eq
  | some place =>
      have written_parts : written =
          { made with files := (made.files.filter fun file => file.1 ≠ place) ++ [(place, text)] } := by
        simp only [write, place_eq, Option.bind_eq_bind, Option.bind_some] at written_eq
        split at written_eq
        · cases written_eq
        · exact (Option.some.inj written_eq).symm
      have place_after : written.place? target = some place := by
        rw [← place_eq]
        exact place?_congr (by rw [written_parts]) target
      constructor
      case reads_back =>
        rw [read?, place_after, written_parts]
        exact lookup_replaced made.files place text
      case others_kept =>
        refine ⟨place, place_after, fun other differs => ?_⟩
        rw [written_parts, ← files_eq]
        exact lookup_of_other made.files differs text
      case folders_kept => rwa [written_parts]

end Folder

/-! ## Carried out whole or not at all -/

namespace EmitCommand

/-- The manifest describes the unit, and the text is its header under the options of the command. -/
structure Makes (command : EmitCommand) (manifest : String) (unit : SourceUnit) (text : String) :
    Prop where
  describes : Manifest.sourceUnit.parse manifest = .ok unit
  generated :
    Header.generate
      { naming := { prefixes := command.prefixes }
        settings := { indentWidth := command.indent, marksDeprecated := !command.noDeprecated } }
      unit = .ok text

/-- The path of the file that the header of a unit goes to. -/
def target (command : EmitCommand) (unit : SourceUnit) : String :=
  Path.join (command.outputFolder.getD ".") unit.headerPath

/-- The folder that has to be there for the header of a unit. -/
def targetFolder (command : EmitCommand) (unit : SourceUnit) : String :=
  (Path.parent? (command.target unit)).getD ""

/-- A run leaves the header, printed or in the one file that it goes to, or nothing at all. -/
structure AllOrNothing {World : Type} (command : EmitCommand) (system : FileSystem World)
    (world : World) : Prop where
  printed : ∀ manifest unit text, system.read world command.file = some manifest →
    command.Makes manifest unit text → command.toStandardOutput = true →
    (Command.emit command).runOn system world = { status := 0, output := text, world }
  written : ∀ manifest unit text, system.read world command.file = some manifest →
    command.Makes manifest unit text → command.toStandardOutput = false →
    Path.staysInside unit.headerPath = true →
    ∀ made, system.makeFolders world (command.targetFolder unit) = some made →
    ∀ written, system.write made (command.target unit) text = some written →
    (Command.emit command).runOn system world = { status := 0, world := written }
  refused :
    (∀ manifest unit text, system.read world command.file = some manifest →
      command.Makes manifest unit text →
      command.toStandardOutput = false ∧ Path.staysInside unit.headerPath = false) →
    ∃ failure, (Command.emit command).runOn system world =
      { status := 1, failure := some failure, world }

theorem deliver_of_makes {command : EmitCommand} {manifest text : String} {unit : SourceUnit}
    (makes : command.Makes manifest unit text) :
    (Command.emit command).deliver manifest =
      if command.toStandardOutput then .ok (.standardOutput text)
      else if Path.staysInside unit.headerPath then
        .ok (.file (command.outputFolder.getD defaultFolder) unit.headerPath text)
      else .error (.leavesFolder unit.headerPath) := by
  have generated : Header.generate command.context unit = .ok text := makes.generated
  simp only [Command.deliver, makes.describes, deliver, generated]

/-- What is delivered is the header of the unit that the manifest describes. -/
theorem makes_of_deliver {command : EmitCommand} {manifest : String} {delivery : Delivery}
    (delivered : (Command.emit command).deliver manifest = .ok delivery) :
    ∃ unit text, command.Makes manifest unit text ∧
      ¬ (command.toStandardOutput = false ∧ Path.staysInside unit.headerPath = false) := by
  cases parsed : Manifest.sourceUnit.parse manifest with
  | error fault => simp [Command.deliver, parsed] at delivered
  | ok unit =>
      cases generated : Header.generate command.context unit with
      | error fault => simp [Command.deliver, parsed, deliver, generated] at delivered
      | ok text =>
          have makes : command.Makes manifest unit text := ⟨parsed, generated⟩
          refine ⟨unit, text, makes, ?_⟩
          rintro ⟨to_folder, outside⟩
          simp [deliver_of_makes makes, to_folder, outside] at delivered

theorem allOrNothing {World : Type} (command : EmitCommand) (system : FileSystem World)
    (world : World) : command.AllOrNothing system world := by
  constructor
  case printed =>
    intro manifest unit text read makes to_output
    simp only [Command.runOn, Command.file, read, deliver_of_makes makes, to_output, if_true]
    rfl
  case written =>
    intro manifest unit text read makes to_folder inside made made_eq written written_eq
    have delivered : (Command.emit command).deliver manifest =
        .ok (.file (command.outputFolder.getD defaultFolder) unit.headerPath text) := by
      simp [deliver_of_makes makes, to_folder, inside]
    have folder_made : system.makeFolders world
        ((Path.parent? (Path.join (command.outputFolder.getD defaultFolder) unit.headerPath)).getD "") =
          some made := made_eq
    have file_written : system.write made
        (Path.join (command.outputFolder.getD defaultFolder) unit.headerPath) text = some written :=
      written_eq
    simp only [Command.runOn, Command.file, read, delivered, Delivery.runOn, folder_made, file_written]
    rfl
  case refused =>
    intro outside
    cases read : system.read world command.file with
    | none => exact ⟨.reading command.file, by simp only [Command.runOn, Command.file, read]; rfl⟩
    | some manifest =>
        cases delivered : (Command.emit command).deliver manifest with
        | error failure =>
            exact ⟨failure, by simp only [Command.runOn, Command.file, read, delivered]; rfl⟩
        | ok delivery =>
            obtain ⟨unit, text, makes, not_outside⟩ := makes_of_deliver delivered
            exact absurd (outside manifest unit text read makes) not_outside

/-- On every system of files an emit command is carried out whole or not at all, and touches no file but
the one it writes. -/
theorem run_allOrNothing (command : EmitCommand) :
    (∀ {World : Type} (system : FileSystem World) (world : World),
      command.AllOrNothing system world) ∧
    (∀ folder : Folder, (Command.emit command).runIn folder =
      ((Command.emit command).runOn Folder.system folder).outcome) ∧
    ∀ (folder made written : Folder) (unit : SourceUnit) (text : String),
      folder.makeFolders (command.targetFolder unit) = some made →
      made.write (command.target unit) text = some written →
      folder.Rewritten written (command.target unit) text :=
  ⟨command.allOrNothing, fun folder => (Command.emit command).runIn_eq_runOn folder,
    fun _ _ _ _ _ made_eq written_eq => Folder.rewritten_of_write made_eq written_eq⟩

/-- A unit without declarations. -/
def crateUnit : SourceUnit where
  package := "store"
  sourceFile := "store/Crate.java"

/-- A folder with the manifest of the unit. -/
def crateFolder : Folder where
  files := [(["crate.json"], Manifest.sourceUnit.print crateUnit)]

theorem run_allOrNothing_of_crate :
    ∃ text written,
      (Command.emit { file := "crate.json", outputFolder := some "out" }).runIn crateFolder =
        { status := 0, folder := written } ∧
      crateFolder.Rewritten written "out/store/Crate.h" text := by
  obtain ⟨complete, below, rewrites⟩ :=
    run_allOrNothing { file := "crate.json", outputFolder := some "out" }
  have read : crateFolder.read? "crate.json" = some (Manifest.sourceUnit.print crateUnit) := by
    decide +kernel
  have described : Manifest.sourceUnit.parse (Manifest.sourceUnit.print crateUnit) = .ok crateUnit := by
    have no_constants : crateUnit.constantsOf = [] := rfl
    exact (Manifest.keeps_sourceUnit (by simp [no_constants])).parse_print (by decide +kernel)
  obtain ⟨text, generated⟩ : ∃ text, Header.generate {} crateUnit = .ok text := ⟨_, rfl⟩
  obtain ⟨made, made_eq, place_eq, free⟩ : ∃ made, crateFolder.makeFolders "out/store" = some made ∧
      made.place? "out/store/Crate.h" = some ["out", "store", "Crate.h"] ∧
      made.hasFolder ["out", "store", "Crate.h"] = false :=
    ⟨{ crateFolder with folders := [["out"], ["out", "store"]] }, by decide +kernel⟩
  obtain ⟨written, written_eq⟩ : ∃ written, made.write "out/store/Crate.h" text = some written := by
    simp [Folder.write, place_eq, free]
  have ended := (complete Folder.system crateFolder).written _ crateUnit text read
    ⟨described, generated⟩ rfl (by decide) made made_eq written written_eq
  refine ⟨text, written, ?_, rewrites crateFolder made written crateUnit text made_eq written_eq⟩
  rw [below, ended]
  rfl

end EmitCommand

end HeaderForge.CommandLine
