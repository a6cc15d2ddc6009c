import HeaderForge.CommandLine.Command

/-!
# Reading command lines

The first argument names a command; what follows are its options, in any order, and one file. An option
starts with two dashes, some also with one dash and a letter. Its value follows an equals sign or stands
in the next argument. After two dashes alone no more options are looked for.

Values are only looked at when the argument after them is, so an unknown option is noticed before a
wrong value just in front of it.
-/

namespace HeaderForge.CommandLine

/-- The options that take a value. -/
inductive ValueOption where
  /-- The folder the header goes to. -/
  | output
  /-- A short name of a package. -/
  | packagePrefix
  /-- The number of spaces of one level of indentation. -/
  | indent
deriving DecidableEq, Repr

/-- The options that take no value. -/
inductive FlagOption where
  /-- Leaves deprecated declarations unmarked. -/
  | noDeprecated
  /-- Prints the header. -/
  | standardOutput
  /-- Asks for help. -/
  | help
  /-- Asks for the version. -/
  | version
deriving DecidableEq, Repr

/-- An option. -/
inductive OptionKind where
  /-- One that takes a value. -/
  | value (option : ValueOption)
  /-- One that takes none. -/
  | flag (option : FlagOption)
deriving DecidableEq, Repr

/-- The options of a command. -/
structure Grammar where
  /-- The options by the names after two dashes. -/
  long : List (String × OptionKind)
  /-- The options by the letters after one dash. -/
  short : List (Char × OptionKind)

/-- The options that stand before a command. -/
def topGrammar : Grammar where
  long := [("help", .flag .help), ("version", .flag .version)]
  short := [('h', .flag .help), ('V', .flag .version)]

/-- The options of the command that writes a header. -/
def emitGrammar : Grammar where
  long :=
    [("output", .value .output), ("prefix", .value .packagePrefix), ("indent", .value .indent),
     ("no-deprecated", .flag .noDeprecated), ("stdout", .flag .standardOutput),
     ("help", .flag .help)]
  short := [('o', .value .output), ('h', .flag .help)]

/-- The options of the command that lists dependencies. -/
def depsGrammar : Grammar where
  long := [("prefix", .value .packagePrefix), ("help", .flag .help)]
  short := [('h', .flag .help)]

/-! ## Single arguments -/

/-- What an argument looks like. -/
inductive Look where
  /-- Two dashes alone. -/
  | separator
  /-- An option, if it is known, and the value attached to it. -/
  | option (kind : Option OptionKind) (value : Option String)
  /-- Anything else. -/
  | plain
deriving DecidableEq, Repr

/-- The value attached to a letter option, without the equals sign it may start with. -/
def attachedValue : List Char → Option String
  | [] => none
  | '=' :: value => some (String.ofList value)
  | value => some (String.ofList value)

/-- What an argument looks like to a command. A letter option without a value ends what is looked at,
since all of these are answered at once. -/
def Grammar.look (grammar : Grammar) (argument : String) : Look :=
  match argument.toList with
  | ['-', '-'] => .separator
  | '-' :: '-' :: option =>
    match option.span (· != '=') with
    | (name, []) => .option (grammar.long.lookup (String.ofList name)) none
    | (name, _ :: value) =>
      .option (grammar.long.lookup (String.ofList name)) (some (String.ofList value))
  | '-' :: letter :: rest =>
    match grammar.short.lookup letter with
    | some (.value option) => .option (some (.value option)) (attachedValue rest)
    | kind => .option kind none
  | _ => .plain

/-! ## Commands -/

/-- What is known of a command so far. -/
structure Draft where
  /-- The file. -/
  file : Option String := none
  /-- The folder the header goes to. -/
  outputFolder : Option String := none
  /-- The short names of packages, the last first. -/
  prefixes : List PackagePrefix := []
  /-- The number of spaces of one level of indentation. -/
  indent : Option Nat := none
  /-- Whether deprecated declarations are left unmarked. -/
  noDeprecated : Bool := false
  /-- Whether the header is printed. -/
  toStandardOutput : Bool := false
deriving DecidableEq, Repr

/-- What an argument is for. -/
inductive Role where
  /-- The value of an option. -/
  | value (option : ValueOption)
  /-- The file. -/
  | file
deriving DecidableEq, Repr

/-- An argument that has been read but not looked at; the value of an option may still be missing. -/
structure Pending where
  /-- What it is for. -/
  role : Role
  /-- The argument. -/
  argument : Option String
deriving DecidableEq, Repr

/-- A path, which may not be empty. -/
def parsePath (argument : String) : Except Refusal String :=
  if argument = "" then .error .missingValue else .ok argument

/-- Looks at an argument. Only short names of packages may be given more than once. -/
def Draft.accept (draft : Draft) (role : Role) (argument : String) : Except Refusal Draft :=
  match role with
  | .file => do
    let file ← parsePath argument
    pure { draft with file := some file }
  | .value .output =>
    if draft.outputFolder.isSome then .error .conflict
    else do
      let folder ← parsePath argument
      pure { draft with outputFolder := some folder }
  | .value .packagePrefix =>
    match parsePrefix? argument with
    | some entry => .ok { draft with prefixes := entry :: draft.prefixes }
    | none => .error .wrongValue
  | .value .indent =>
    if draft.indent.isSome then .error .conflict
    else
      match parseCount? argument with
      | some count => .ok { draft with indent := some count }
      | none => .error .wrongValue

/-- Looks at the argument that is pending. -/
def Draft.settle (draft : Draft) : Option Pending → Except Refusal Draft
  | none => .ok draft
  | some ⟨_, none⟩ => .error .missingValue
  | some ⟨role, some argument⟩ => draft.accept role argument

/-- Notes an option that takes no value. -/
def Draft.raise (draft : Draft) : FlagOption → Except Refusal Draft
  | .noDeprecated =>
    if draft.noDeprecated then .error .conflict else .ok { draft with noDeprecated := true }
  | .standardOutput =>
    if draft.toStandardOutput then .error .conflict
    else .ok { draft with toStandardOutput := true }
  | .help => .error .helpAsked
  | .version => .error .versionAsked

/-- Where reading stands. -/
structure Reading where
  /-- What is known so far. -/
  draft : Draft := {}
  /-- The argument that is pending. -/
  pending : Option Pending := none
  /-- Whether the file has been given. -/
  hasFile : Bool := false
  /-- Whether two dashes alone have been read. -/
  pastSeparator : Bool := false
deriving DecidableEq, Repr

/-- Reads an argument that is no option: the value of the option before it, or the file. -/
def Reading.readPlain (reading : Reading) (argument : String) : Except Refusal Reading :=
  match reading.pending, reading.pastSeparator with
  | some ⟨role, none⟩, false => .ok { reading with pending := some ⟨role, some argument⟩ }
  | pending, _ =>
    if reading.hasFile then .error .unknownArgument
    else do
      let draft ← reading.draft.settle pending
      pure { reading with draft, pending := some ⟨.file, some argument⟩, hasFile := true }

/-- Reads an option. -/
def Reading.readOption (reading : Reading) (kind : Option OptionKind) (value : Option String) :
    Except Refusal Reading :=
  match kind, value with
  | none, _ => .error .unknownArgument
  | some (.flag _), some _ => .error .unneededValue
  | some (.flag option), none => do
    let draft ← (← reading.draft.settle reading.pending).raise option
    pure { reading with draft, pending := none }
  | some (.value option), none => do
    let draft ← reading.draft.settle reading.pending
    pure { reading with draft, pending := some ⟨.value option, none⟩ }
  | some (.value option), some value => do
    let draft ← (← reading.draft.settle reading.pending).accept (.value option) value
    pure { reading with draft, pending := none }

/-- Reads one argument. -/
def Reading.readArgument (grammar : Grammar) (reading : Reading) (argument : String) :
    Except Refusal Reading :=
  if reading.pastSeparator then reading.readPlain argument
  else
    match grammar.look argument with
    | .separator => .ok { reading with pastSeparator := true }
    | .option kind value => reading.readOption kind value
    | .plain => reading.readPlain argument

/-- Reads the arguments of a command. -/
def readArguments (grammar : Grammar) (arguments : List String) : Except Refusal Draft := do
  let reading ← arguments.foldlM (Reading.readArgument grammar) {}
  reading.draft.settle reading.pending

/-- The file, which must be given. -/
def Draft.requireFile (draft : Draft) : Except Refusal String :=
  match draft.file with
  | some file => .ok file
  | none => .error .missingArgument

/-- Reads the arguments of the command that writes a header. The header cannot go to a folder and be
printed. -/
def parseEmit (arguments : List String) : Except Refusal EmitCommand := do
  let draft ← readArguments emitGrammar arguments
  if draft.toStandardOutput && draft.outputFolder.isSome then .error .conflict
  else
    let file ← draft.requireFile
    pure
      { file
        outputFolder := draft.outputFolder
        prefixes := draft.prefixes.reverse
        noDeprecated := draft.noDeprecated
        indent := draft.indent.getD 2
        toStandardOutput := draft.toStandardOutput }

/-- Reads the arguments of the command that lists dependencies. -/
def parseDeps (arguments : List String) : Except Refusal DepsCommand := do
  let draft ← readArguments depsGrammar arguments
  let file ← draft.requireFile
  pure { file, prefixes := draft.prefixes.reverse }

/-- The names that can stand where a command is expected. -/
def commandNames : List String := ["emit", "deps", "help"]

/-- What the arguments after the word for help ask for. -/
def helpRefusal : List String → Refusal
  | [] => .helpAsked
  | [name] => if commandNames.contains name then .helpAsked else .unknownCommand
  | _ => .unknownCommand

/-- Reads a command line in which two dashes alone stand before any command. -/
def parseSeparated : List String → Except Refusal Command
  | [] => .error .nothingAsked
  | argument :: _ =>
    .error (if commandNames.contains argument then .unknownArgument else .unknownCommand)

/-- Reads a command line. -/
def parse : List String → Except Refusal Command
  | [] => .error .nothingAsked
  | "emit" :: arguments => (parseEmit arguments).map .emit
  | "deps" :: arguments => (parseDeps arguments).map .deps
  | "help" :: arguments => .error (helpRefusal arguments)
  | argument :: arguments =>
    match topGrammar.look argument with
    | .separator => parseSeparated arguments
    | .option (some (.flag .help)) none => .error .helpAsked
    | .option (some (.flag .version)) none => .error .versionAsked
    | .option (some _) _ => .error .unneededValue
    | .option none _ => .error .unknownArgument
    | .plain => .error .unknownCommand

end HeaderForge.CommandLine
