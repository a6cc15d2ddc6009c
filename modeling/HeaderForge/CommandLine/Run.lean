import HeaderForge.CommandLine.Parser
import HeaderForge.Header.Unit
import HeaderForge.Manifest.Unit

/-!
# Carrying out commands

What a command does with the text of its manifest: it makes a text to print, or a text for a file, or it
fails. Nothing is delivered by a command that fails.
-/

namespace HeaderForge.CommandLine

/-- What a command delivers. -/
inductive Delivery where
  /-- A text to print. -/
  | standardOutput (text : String)
  /-- A text for a file below a folder. -/
  | file (folder path text : String)
deriving DecidableEq, Repr

/-- Why a command failed. -/
inductive Failure where
  /-- The manifest could not be read from its file. -/
  | reading (file : String)
  /-- The manifest does not describe a unit. -/
  | parsing (file : String) (fault : Manifest.Fault)
  /-- No header can be written for the unit. -/
  | emission (fault : Header.Fault)
  /-- The header would not lie in its folder. -/
  | leavesFolder (path : String)
  /-- A folder could not be made. -/
  | making (folder : String)
  /-- A file could not be written. -/
  | writing (file : String)
deriving DecidableEq, Repr

/-- The words for a failure. -/
def Failure.message : Failure → String
  | reading file => "Error reading " ++ file ++ ": cannot be read"
  | parsing file fault =>
    "Error parsing " ++ file ++ ": " ++ fault.message?.getD "not a JSON text of a unit"
  | emission fault => fault.code ++ "\n\n  " ++ fault.message ++ "\n  help: " ++ fault.help
  | leavesFolder path =>
    "Header path '" ++ path ++ "' must stay inside the output directory"
  | making folder => "Error creating " ++ folder ++ ": cannot be made"
  | writing file => "Error writing " ++ file ++ ": cannot be written"

/-- The file with the manifest of a command. -/
def Command.file : Command → String
  | emit command => command.file
  | deps command => command.file

/-- How the command writes headers. -/
def EmitCommand.context (command : EmitCommand) : Header.Context where
  naming := { prefixes := command.prefixes }
  settings :=
    { indentWidth := command.indent, marksDeprecated := !command.noDeprecated }

/-- The folder the header goes to when none is given. -/
def defaultFolder : String := "."

/-- Delivers the header of a unit. -/
def EmitCommand.deliver (command : EmitCommand) (unit : SourceUnit) : Except Failure Delivery :=
  match Header.generate command.context unit with
  | .error fault => .error (.emission fault)
  | .ok text =>
    if command.toStandardOutput then .ok (.standardOutput text)
    else if Path.staysInside unit.headerPath then
      .ok (.file (command.outputFolder.getD defaultFolder) unit.headerPath text)
    else
      .error (.leavesFolder unit.headerPath)

/-- The lines that list dependencies. -/
def dependencyLines (dependencies : Dependencies) : List String :=
  dependencies.forward.map Import.forwardDeclaration
    ++ dependencies.superTypes.map Import.includeStatement

/-- Delivers the list of what the header of a unit depends on. -/
def DepsCommand.deliver (command : DepsCommand) (unit : SourceUnit) : Delivery :=
  let dependencies := Dependencies.collect { prefixes := command.prefixes } unit
  .standardOutput (String.join ((dependencyLines dependencies).map (· ++ "\n")))

/-- Delivers what a command asks for, given the text of its manifest. -/
def Command.deliver (command : Command) (manifest : String) : Except Failure Delivery :=
  match Manifest.sourceUnit.parse manifest with
  | .error fault => .error (.parsing command.file fault)
  | .ok unit =>
    match command with
    | emit command => command.deliver unit
    | deps command => .ok (command.deliver unit)

/-- The exit status of a command that succeeds. -/
def successStatus : Nat := 0

/-- The exit status of a command that fails. -/
def failureStatus : Nat := 1

/-- The exit status of a command line that is refused. -/
def Refusal.status (refusal : Refusal) : Nat := if refusal.isAnswered then successStatus else 2

end HeaderForge.CommandLine
