import HeaderForge.CommandLine.Run

/-!
# Running in a folder

The whole program as a function: from a command line and the content of the folder it runs in, to what
it prints and the content of the folder afterwards. A folder knows only what is below it; paths that
leave it lead nowhere.
-/

namespace HeaderForge.CommandLine

/-- The content of a folder. Files and folders are known by the names on the way to them. -/
structure Folder where
  /-- The files with their texts. -/
  files : List (List String × String) := []
  /-- The folders below. -/
  folders : List (List String) := []
deriving DecidableEq, Repr

namespace Folder

/-- The greatest length of a file name, in bytes. -/
def maxNameSize : Nat := 255

/-- The greatest length of a path, in bytes. -/
def maxPathSize : Nat := 4095

/-- Whether a file or folder can have the name. -/
def isUsableName (name : String) : Bool :=
  name.utf8ByteSize ≤ maxNameSize && !name.toList.contains '\x00'

/-- Whether a path can be followed. -/
def isUsablePath (path : String) : Bool := path.utf8ByteSize ≤ maxPathSize

/-- Whether the names lead to a folder. -/
def hasFolder (folder : Folder) (names : List String) : Bool :=
  names.isEmpty || folder.folders.contains names

/-- Whether the names lead to a file. -/
def hasFile (folder : Folder) (names : List String) : Bool :=
  folder.files.any fun file => file.1 == names

/-- Where a step from a place leads, if that is inside. -/
def follow? (place : List String) : Path.Component → Option (List String)
  | .root => none
  | .current => some place
  | .parent => if place.isEmpty then none else some place.dropLast
  | .normal name => if isUsableName name then some (place ++ [name]) else none

/-- Follows components through folders that exist. -/
def walk? (folder : Folder) : List String → List Path.Component → Option (List String)
  | place, [] => some place
  | place, component :: rest => do
    let next ← follow? place component
    if folder.hasFolder next then folder.walk? next rest else none

/-- Where the path of a file leads: through folders that exist, to a name in the last. -/
def place? (folder : Folder) (path : String) : Option (List String) :=
  match Path.fileName? path with
  | none => none
  | some (_, name) =>
    if isUsablePath path && Text.endsWith path name then do
      let place ← folder.walk? [] (Path.components path).dropLast
      follow? place (.normal name)
    else
      none

/-- The text of the file at a path. -/
def read? (folder : Folder) (path : String) : Option String := do
  folder.files.lookup (← folder.place? path)

/-- Makes the folders along components that do not exist yet. -/
def makeAlong (folder : Folder) : List String → List Path.Component → Option Folder
  | _, [] => some folder
  | place, component :: rest => do
    let next ← follow? place component
    if folder.hasFolder next then folder.makeAlong next rest
    else if folder.hasFile next then none
    else makeAlong { folder with folders := folder.folders ++ [next] } next rest

/-- Makes the folder at a path and all folders on the way. -/
def makeFolders (folder : Folder) (path : String) : Option Folder :=
  if isUsablePath path then folder.makeAlong [] (Path.components path) else none

/-- Writes the file at a path, in a folder that exists. -/
def write (folder : Folder) (path text : String) : Option Folder := do
  let place ← folder.place? path
  if folder.hasFolder place then none
  else pure { folder with files := (folder.files.filter fun file => file.1 ≠ place) ++ [(place, text)] }

/-- The folders on the way to a place. -/
def foldersTo (place : List String) : List (List String) :=
  (List.range place.length).filterMap fun count =>
    if count = 0 then none else some (place.take count)

/-- The folder with the given files, known by their paths. -/
def ofFiles (files : List (String × String)) : Folder :=
  let files := files.map fun (path, text) => (Path.trimIdle (Path.names path), text)
  { files, folders := (files.flatMap fun file => foldersTo file.1).eraseDups }

/-- The files with their paths. -/
def paths (folder : Folder) : List (String × String) :=
  folder.files.map fun (names, text) => ("/".intercalate names, text)

end Folder

/-- What a run of the program comes to. -/
structure Outcome where
  /-- The exit status. -/
  status : Nat
  /-- What is printed. -/
  output : String := ""
  /-- Why a command failed. -/
  failure : Option Failure := none
  /-- The folder afterwards. -/
  folder : Folder

/-- The outcome of a command that fails: nothing is printed. -/
def Outcome.failed (folder : Folder) (failure : Failure) : Outcome :=
  { status := failureStatus, failure := some failure, folder }

/-- Delivers in a folder. -/
def Delivery.runIn (folder : Folder) : Delivery → Outcome
  | standardOutput text => { status := successStatus, output := text, folder }
  | file root path text =>
    let target := Path.join root path
    let parent := (Path.parent? target).getD ""
    match folder.makeFolders parent with
    | none => .failed folder (.making parent)
    | some made =>
      match made.write target text with
      | none => .failed made (.writing target)
      | some written => { status := successStatus, folder := written }

/-- Carries out a command in a folder. -/
def Command.runIn (folder : Folder) (command : Command) : Outcome :=
  match folder.read? command.file with
  | none => .failed folder (.reading command.file)
  | some manifest =>
    match command.deliver manifest with
    | .error failure => .failed folder failure
    | .ok delivery => delivery.runIn folder

/-- Runs the program in a folder. -/
def run (folder : Folder) (arguments : List String) : Outcome :=
  match parse arguments with
  | .error refusal => { status := refusal.status, folder }
  | .ok command => command.runIn folder

end HeaderForge.CommandLine
