import HeaderForge.Naming.Types

/-!
# Commands

What the program can be asked to do, and why a command line may be refused.
-/

namespace HeaderForge.CommandLine

/-- The command to write the header of a unit. -/
structure EmitCommand where
  /-- The file with the manifest. -/
  file : String
  /-- The folder the header goes to. -/
  outputFolder : Option String := none
  /-- The short names of packages. -/
  prefixes : List PackagePrefix := []
  /-- Whether deprecated declarations are left unmarked. -/
  noDeprecated : Bool := false
  /-- The number of spaces of one level of indentation. -/
  indent : Nat := 2
  /-- Whether the header is printed instead. -/
  toStandardOutput : Bool := false
deriving DecidableEq, Repr

/-- The command to list what the header of a unit depends on. -/
structure DepsCommand where
  /-- The file with the manifest. -/
  file : String
  /-- The short names of packages. -/
  prefixes : List PackagePrefix := []
deriving DecidableEq, Repr

/-- A command. -/
inductive Command where
  /-- Writes the header of a unit. -/
  | emit (command : EmitCommand)
  /-- Lists what the header of a unit depends on. -/
  | deps (command : DepsCommand)
deriving DecidableEq, Repr

/-- Why a command line is not carried out. -/
inductive Refusal where
  /-- Nothing is asked for. -/
  | nothingAsked
  /-- Help is asked for. -/
  | helpAsked
  /-- The version is asked for. -/
  | versionAsked
  /-- The command is not known. -/
  | unknownCommand
  /-- An argument is not known. -/
  | unknownArgument
  /-- An argument that is needed is missing. -/
  | missingArgument
  /-- The value of an argument is missing or empty. -/
  | missingValue
  /-- A value is given to an argument that takes none. -/
  | unneededValue
  /-- The value of an argument is not of the right form. -/
  | wrongValue
  /-- Two arguments exclude each other, or one is given twice. -/
  | conflict
deriving DecidableEq, Repr

/-- Whether the program was used as intended even though no command was carried out. -/
def Refusal.isAnswered : Refusal → Bool
  | helpAsked => true
  | versionAsked => true
  | _ => false

/-- Reads the short name of a package, written `package=PREFIX`; neither part may be empty. -/
def parsePrefix? (argument : String) : Option PackagePrefix :=
  match Text.cutAt '=' argument with
  | some (package, short) => if package = "" ∨ short = "" then none else some ⟨package, short⟩
  | none => none

/-- What is said of a short name that is not of the right form. -/
def prefixMessage (argument : String) : String :=
  "expected `package=PREFIX`, got `" ++ argument ++ "`"

/-- One more than the greatest number an argument can give. -/
def countLimit : Nat := UInt64.size

/-- Reads a number: decimal digits, perhaps after a plus sign. -/
def parseCount? (argument : String) : Option Nat :=
  let digits :=
    match argument.toList with
    | '+' :: digits => digits
    | digits => digits
  if digits.isEmpty || !digits.all Char.isDigit then none
  else
    let count := digits.foldl (fun count digit => count * 10 + (digit.toNat - '0'.toNat)) 0
    if count < countLimit then some count else none

end HeaderForge.CommandLine
