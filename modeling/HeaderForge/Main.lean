import HeaderForge.CommandLine.Run

/-!
# The program

Reads a command line, and carries the command out on the files of the system.
-/

namespace HeaderForge.CommandLine

/-- How the program is used. -/
def usage : String :=
  "Usage: emit <UNIT> [-o OUT_DIR | --stdout] [--prefix PKG=PREFIX]... [--no-deprecated] [--indent N]\n"
    ++ "       deps <UNIT> [--prefix PKG=PREFIX]...\n"

/-- The version of the program. -/
def version : String := "0.1.0-alpha.1\n"

/-- Prints what is said to a command line that is not carried out. -/
def Refusal.report (refusal : Refusal) : IO Unit :=
  match refusal with
  | .helpAsked => IO.print usage
  | .versionAsked => IO.print version
  | _ => IO.eprint usage

/-- Does something with a file or folder; `none` if the system refuses. -/
def attempt (action : IO α) : IO (Option α) := do
  try
    return some (← action)
  catch _ =>
    return none

/-- Delivers on the files of the system; gives the failure if there is one. -/
def Delivery.perform : Delivery → IO (Option Failure)
  | standardOutput text => do
    IO.print text
    return none
  | file root path text => do
    let target := Path.join root path
    let parent := (Path.parent? target).getD ""
    let made ← if parent = "" then pure (some ()) else attempt (IO.FS.createDirAll parent)
    if made.isNone then return some (.making parent)
    let written ← attempt (IO.FS.writeFile target text)
    return if written.isNone then some (.writing target) else none

/-- Carries out a command; gives the failure if there is one. -/
def Command.perform (command : Command) : IO (Option Failure) := do
  match ← attempt (IO.FS.readFile command.file) with
  | none => return some (.reading command.file)
  | some manifest =>
    match command.deliver manifest with
    | .error failure => return some failure
    | .ok delivery => delivery.perform

end HeaderForge.CommandLine

open HeaderForge.CommandLine in
/-- The program. -/
def main (arguments : List String) : IO UInt32 := do
  match parse arguments with
  | .error refusal =>
    refusal.report
    return UInt32.ofNat refusal.status
  | .ok command =>
    match ← command.perform with
    | none => return UInt32.ofNat successStatus
    | some failure =>
      IO.eprintln failure.message
      return UInt32.ofNat failureStatus
