import HeaderForge.CommandLine.Parser
import HeaderForge.Proofs.Json.Numbers
import HeaderForge.Proofs.Signatures

/-!
# Command lines read back

Every command can be written as a command line: its options in any order, each with its value attached,
then two dashes alone and the file. Only the short names of packages must keep their order. What is
known after some options have been read is a function of these options, and the options of a command
tell its parts apart, so the command line is read as the command. With a folder and the option to print
as well, it is refused.
-/

namespace HeaderForge.CommandLine

/-! ## Options as they are given -/

/-- A short name of a package, as an argument gives it. -/
def prefixText (entry : PackagePrefix) : String := entry.package ++ "=" ++ entry.short

/-- An option as it is given, with its value. -/
inductive GivenOption where
  /-- A short name of a package. -/
  | packagePrefix (entry : PackagePrefix)
  /-- The number of spaces of one level of indentation. -/
  | indent (count : Nat)
  /-- The folder the header goes to. -/
  | output (folder : String)
  /-- Leaves deprecated declarations unmarked. -/
  | noDeprecated
  /-- Prints the header. -/
  | standardOutput
deriving DecidableEq

namespace GivenOption

/-- Which option it is. -/
def kind : GivenOption → OptionKind
  | packagePrefix _ => .value .packagePrefix
  | indent _ => .value .indent
  | output _ => .value .output
  | noDeprecated => .flag .noDeprecated
  | standardOutput => .flag .standardOutput

/-- The name after two dashes. -/
def name : GivenOption → String
  | packagePrefix _ => "prefix"
  | indent _ => "indent"
  | output _ => "output"
  | noDeprecated => "no-deprecated"
  | standardOutput => "stdout"

/-- The value, as it is attached after an equals sign. -/
def value? : GivenOption → Option String
  | packagePrefix entry => some (prefixText entry)
  | indent count => some (toString count)
  | output folder => some folder
  | noDeprecated => none
  | standardOutput => none

/-- The option as one argument. -/
def argument (option : GivenOption) : String :=
  match option.value? with
  | some value => "--" ++ option.name ++ "=" ++ value
  | none => "--" ++ option.name

/-- The short name, if one is given. -/
@[simp] def prefix? : GivenOption → Option PackagePrefix
  | packagePrefix entry => some entry
  | _ => none

/-- The number of spaces, if one is given. -/
@[simp] def indent? : GivenOption → Option Nat
  | indent count => some count
  | _ => none

/-- The folder, if one is given. -/
@[simp] def output? : GivenOption → Option String
  | output folder => some folder
  | _ => none

end GivenOption

/-- A short name that an argument can give: neither part is empty, and the first equals sign stands
between them. -/
structure IsExpressiblePrefix (entry : PackagePrefix) : Prop where
  package_ne : entry.package ≠ ""
  no_equals : '=' ∉ entry.package.toList
  short_ne : entry.short ≠ ""

/-- A value that an argument can give. -/
def GivenOption.IsExpressible : GivenOption → Prop
  | .packagePrefix entry => IsExpressiblePrefix entry
  | .indent count => count < countLimit
  | .output folder => folder ≠ ""
  | .noDeprecated => True
  | .standardOutput => True

/-! ## Commands as they are written -/

/-- A command that arguments can give: its file and its values are not empty, its number fits 64 bits,
and the header is not to go to a folder and be printed. -/
def Command.IsExpressible : Command → Prop
  | .emit command =>
    command.file ≠ "" ∧ (∀ entry ∈ command.prefixes, IsExpressiblePrefix entry) ∧
      command.indent < countLimit ∧ command.outputFolder ≠ some "" ∧
      (command.outputFolder = none ∨ command.toStandardOutput = false)
  | .deps command =>
    command.file ≠ "" ∧ ∀ entry ∈ command.prefixes, IsExpressiblePrefix entry

/-- The options of the command that writes a header that are given once. -/
def EmitCommand.singleOptions (command : EmitCommand) : List GivenOption :=
  .indent command.indent ::
    ((command.outputFolder.map .output).toList ++
      ((if command.noDeprecated then [.noDeprecated] else []) ++
        if command.toStandardOutput then [.standardOutput] else []))

/-- The options of the command that writes a header. -/
def EmitCommand.options (command : EmitCommand) : List GivenOption :=
  command.prefixes.map .packagePrefix ++ command.singleOptions

/-- The options of the command in some order, in which the short names keep theirs. -/
structure EmitCommand.HasOrder (command : EmitCommand) (order : List GivenOption) : Prop where
  perm : order.Perm command.options
  prefixes_eq : order.filterMap GivenOption.prefix? = command.prefixes

/-- The arguments of a command: its options, and after two dashes alone its file. -/
def argumentsOf (order : List GivenOption) (file : String) : List String :=
  order.map GivenOption.argument ++ ["--", file]

/-- The command is written as the command line. -/
inductive Command.IsWritten : Command → List String → Prop
  | emit {command : EmitCommand} {order : List GivenOption} (ordered : command.HasOrder order) :
      IsWritten (.emit command) ("emit" :: argumentsOf order command.file)
  | deps (command : DepsCommand) :
      IsWritten (.deps command)
        ("deps" :: argumentsOf (command.prefixes.map .packagePrefix) command.file)

theorem filterMap_prefix?_map (prefixes : List PackagePrefix) :
    (prefixes.map GivenOption.packagePrefix).filterMap GivenOption.prefix? = prefixes := by
  rw [List.filterMap_map]
  exact List.filterMap_some

theorem EmitCommand.hasOrder_options (command : EmitCommand) : command.HasOrder command.options := by
  refine ⟨.refl _, ?_⟩
  rw [options, List.filterMap_append, filterMap_prefix?_map, singleOptions]
  cases command.outputFolder <;> cases command.noDeprecated <;> cases command.toStandardOutput <;>
    exact List.append_nil _

/-! ## Single arguments -/

/-- What an argument with two dashes is looked at as: the name of an option, up to the first equals
sign if there is one. -/
theorem look_dashes (grammar : Grammar) {text : String} (nonempty : text ≠ "") :
    grammar.look ("--" ++ text) =
      match Text.cutAt '=' text with
      | some (name, value) => .option (grammar.long.lookup name) (some value)
      | none => .option (grammar.long.lookup text) none := by
  obtain ⟨c, rest, chars_eq⟩ :=
    List.exists_cons_of_ne_nil fun empty => nonempty (String.toList_eq_nil_iff.mp empty)
  have argument_eq : ("--" ++ text).toList = '-' :: '-' :: c :: rest := by simp [chars_eq]
  have text_eq : text = String.ofList (c :: rest) := by rw [← chars_eq, String.ofList_toList]
  rw [Grammar.look, argument_eq, Text.cutAt, chars_eq]
  simp only [List.span_eq_takeWhile_dropWhile]
  cases dropped : (c :: rest).dropWhile (· != '=') with
  | nil =>
      have taken : (c :: rest).takeWhile (· != '=') = c :: rest := by
        have whole := List.takeWhile_append_dropWhile (p := (· != '=')) (l := c :: rest)
        rwa [dropped, List.append_nil] at whole
      simp only [taken, text_eq]
  | cons mark value => rfl

theorem cutAt_of_not_mem {mark : Char} {text : String} (absent : mark ∉ text.toList) :
    Text.cutAt mark text = none := by
  have all_before : ∀ c ∈ text.toList, (c != mark) = true := by
    intro c c_mem
    rw [bne_iff_ne]
    rintro rfl
    exact absent c_mem
  have span_eq : (text.toList ++ []).span (· != mark) = (text.toList, []) := by
    rw [List.span_eq_takeWhile_dropWhile, List.takeWhile_append_of_pos all_before,
      List.dropWhile_append_of_pos all_before, List.takeWhile_nil, List.append_nil,
      List.dropWhile_nil]
  rw [List.append_nil] at span_eq
  rw [Text.cutAt, span_eq]

theorem look_named (grammar : Grammar) {name : String} (named : name ≠ "")
    (no_equals : '=' ∉ name.toList) :
    grammar.look ("--" ++ name) = .option (grammar.long.lookup name) none := by
  rw [look_dashes grammar named, cutAt_of_not_mem no_equals]

theorem look_attached (grammar : Grammar) {name : String} (no_equals : '=' ∉ name.toList)
    (value : String) :
    grammar.look ("--" ++ name ++ "=" ++ value) =
      .option (grammar.long.lookup name) (some value) := by
  have nonempty : name ++ "=" ++ value ≠ "" := by simp
  have cut : Text.cutAt '=' (name ++ "=" ++ value) = some (name, value) :=
    Text.cutAt_append name value no_equals
  have argument_eq : "--" ++ name ++ "=" ++ value = "--" ++ (name ++ "=" ++ value) := by
    simp only [String.append_assoc]
  rw [argument_eq, look_dashes grammar nonempty, cut]

/-- An option the command knows is looked at as what it is. -/
theorem look_argument {grammar : Grammar} {option : GivenOption}
    (known : grammar.long.lookup option.name = some option.kind) :
    grammar.look option.argument = .option (some option.kind) option.value? := by
  have no_equals : '=' ∉ option.name.toList := by
    cases option <;> simp [GivenOption.name]
  have named : option.name ≠ "" := by cases option <;> simp [GivenOption.name]
  rw [GivenOption.argument]
  cases option.value? with
  | some value => exact (look_attached grammar no_equals value).trans (by rw [known])
  | none => exact (look_named grammar named no_equals).trans (by rw [known])

theorem parsePrefix?_prefixText {entry : PackagePrefix} (expressible : IsExpressiblePrefix entry) :
    parsePrefix? (prefixText entry) = some entry := by
  have cut : Text.cutAt '=' (prefixText entry) = some (entry.package, entry.short) :=
    Text.cutAt_append entry.package entry.short expressible.no_equals
  rw [parsePrefix?, cut]
  exact if_neg (not_or.mpr ⟨expressible.package_ne, expressible.short_ne⟩)

theorem parseCount?_toString {count : Nat} (fits : count < countLimit) :
    parseCount? (toString count) = some count := by
  have chars_eq : (toString count).toList = Nat.toDigits 10 count := Nat.toList_repr
  have nonempty : (Nat.toDigits 10 count).isEmpty = false := by
    rw [List.isEmpty_eq_false_iff]
    exact Nat.toDigits_ne_nil
  have all_digits : (Nat.toDigits 10 count).all Char.isDigit = true :=
    List.all_eq_true.mpr fun c c_mem => Json.isDigit_of_mem_toDigits c_mem
  have unsigned (digits : List Char) : Nat.toDigits 10 count ≠ '+' :: digits := by
    intro digits_eq
    have plus_mem : '+' ∈ Nat.toDigits 10 count := digits_eq ▸ List.mem_cons_self
    exact absurd (Json.isDigit_of_mem_toDigits plus_mem) (by decide)
  have value_eq : (Nat.toDigits 10 count).foldl
      (fun value digit => value * 10 + (digit.toNat - '0'.toNat)) 0 = count :=
    Json.naturalOfDigits_toDigits count
  rw [parseCount?, chars_eq]
  split
  · next digits digits_eq => exact absurd digits_eq (unsigned digits)
  · simp only [nonempty, all_digits, value_eq, if_pos fits, Bool.not_true, Bool.or_false,
      Bool.false_eq_true, if_false]

/-! ## What some options say -/

/-- What is known after some options have been read. -/
def Draft.ofOptions (options : List GivenOption) : Draft where
  prefixes := (options.filterMap GivenOption.prefix?).reverse
  indent := options.findSome? GivenOption.indent?
  outputFolder := options.findSome? GivenOption.output?
  noDeprecated := options.contains .noDeprecated
  toStandardOutput := options.contains .standardOutput

/-- An option adds to what is known what it says. -/
theorem Draft.ofOptions_append (seen : List GivenOption) (option : GivenOption) :
    Draft.ofOptions (seen ++ [option]) =
      { file := (Draft.ofOptions seen).file
        prefixes := option.prefix?.toList ++ (Draft.ofOptions seen).prefixes
        indent := (Draft.ofOptions seen).indent.or option.indent?
        outputFolder := (Draft.ofOptions seen).outputFolder.or option.output?
        noDeprecated := (Draft.ofOptions seen).noDeprecated || .noDeprecated == option
        toStandardOutput := (Draft.ofOptions seen).toStandardOutput || .standardOutput == option } := by
  cases option <;> simp [Draft.ofOptions]

/-- The two options can both be given: only short names of packages may be given more than once. -/
def GivenOption.Agrees (first second : GivenOption) : Prop :=
  first.kind = second.kind → first.kind = .value .packagePrefix

section Seen

variable {grammar : Grammar} {seen : List GivenOption}

theorem indent_eq_none {count : Nat} (agrees : ∀ earlier ∈ seen, earlier.Agrees (.indent count)) :
    (Draft.ofOptions seen).indent = none := by
  refine List.findSome?_eq_none_iff.mpr fun earlier earlier_mem => ?_
  cases earlier with
  | indent other => cases agrees _ earlier_mem rfl
  | _ => rfl

theorem outputFolder_eq_none {folder : String}
    (agrees : ∀ earlier ∈ seen, earlier.Agrees (.output folder)) :
    (Draft.ofOptions seen).outputFolder = none := by
  refine List.findSome?_eq_none_iff.mpr fun earlier earlier_mem => ?_
  cases earlier with
  | output other => cases agrees _ earlier_mem rfl
  | _ => rfl

/-- An option without a value that agrees with what stands before it is new. -/
theorem contains_eq_false {option : GivenOption} {flag : FlagOption}
    (is_flag : option.kind = .flag flag) (agrees : ∀ earlier ∈ seen, earlier.Agrees option) :
    seen.contains option = false := by
  refine Bool.eq_false_iff.mpr fun given => ?_
  have repeated := agrees option (List.contains_iff_mem.mp given) rfl
  rw [is_flag] at repeated
  cases repeated

theorem accept_prefixText {entry : PackagePrefix} (expressible : IsExpressiblePrefix entry) :
    (Draft.ofOptions seen).accept (.value .packagePrefix) (prefixText entry) =
      .ok (.ofOptions (seen ++ [.packagePrefix entry])) := by
  rw [Draft.accept, parsePrefix?_prefixText expressible, Draft.ofOptions_append]
  simp

theorem accept_count {count : Nat} (fits : count < countLimit)
    (agrees : ∀ earlier ∈ seen, earlier.Agrees (.indent count)) :
    (Draft.ofOptions seen).accept (.value .indent) (toString count) =
      .ok (.ofOptions (seen ++ [.indent count])) := by
  rw [Draft.accept, parseCount?_toString fits, Draft.ofOptions_append, indent_eq_none agrees]
  simp

theorem accept_folder {folder : String} (nonempty : folder ≠ "")
    (agrees : ∀ earlier ∈ seen, earlier.Agrees (.output folder)) :
    (Draft.ofOptions seen).accept (.value .output) folder =
      .ok (.ofOptions (seen ++ [.output folder])) := by
  rw [Draft.accept, parsePath, if_neg nonempty, Draft.ofOptions_append, outputFolder_eq_none agrees]
  simp

theorem raise_noDeprecated (agrees : ∀ earlier ∈ seen, earlier.Agrees .noDeprecated) :
    (Draft.ofOptions seen).raise .noDeprecated = .ok (.ofOptions (seen ++ [.noDeprecated])) := by
  have unset : (Draft.ofOptions seen).noDeprecated = false := contains_eq_false rfl agrees
  rw [Draft.raise, Draft.ofOptions_append, unset]
  simp

theorem raise_standardOutput (agrees : ∀ earlier ∈ seen, earlier.Agrees .standardOutput) :
    (Draft.ofOptions seen).raise .standardOutput =
      .ok (.ofOptions (seen ++ [.standardOutput])) := by
  have unset : (Draft.ofOptions seen).toStandardOutput = false := contains_eq_false rfl agrees
  rw [Draft.raise, Draft.ofOptions_append, unset]
  simp

/-- One option more is read as what it says. -/
theorem readArgument_option {option : GivenOption}
    (known : grammar.long.lookup option.name = some option.kind) (expressible : option.IsExpressible)
    (agrees : ∀ earlier ∈ seen, earlier.Agrees option) :
    Reading.readArgument grammar { draft := .ofOptions seen } option.argument =
      .ok { draft := .ofOptions (seen ++ [option]) } := by
  rw [Reading.readArgument, look_argument known]
  -- Nothing is pending, so reading the option is looking at its value or noting it.
  have put {draft : Except Refusal Draft} (read : draft = .ok (.ofOptions (seen ++ [option]))) :
      draft.map (fun draft => ({ draft } : Reading)) =
        .ok { draft := .ofOptions (seen ++ [option]) } := by
    rw [read]
    rfl
  cases option with
  | packagePrefix entry => exact put (accept_prefixText expressible)
  | indent count => exact put (accept_count expressible agrees)
  | output folder => exact put (accept_folder expressible agrees)
  | noDeprecated => exact put (raise_noDeprecated agrees)
  | standardOutput => exact put (raise_standardOutput agrees)

/-- The options of a command line are read one by one. -/
theorem foldlM_readArgument {order : List GivenOption}
    (known : ∀ option ∈ order, grammar.long.lookup option.name = some option.kind)
    (expressible : ∀ option ∈ order, option.IsExpressible)
    (agree : (seen ++ order).Pairwise GivenOption.Agrees) :
    (order.map GivenOption.argument).foldlM (Reading.readArgument grammar)
        { draft := .ofOptions seen } =
      .ok { draft := .ofOptions (seen ++ order) } := by
  induction order generalizing seen with
  | nil => rw [List.append_nil]; rfl
  | cons option rest ih =>
      have step := readArgument_option (known option List.mem_cons_self)
        (expressible option List.mem_cons_self) fun earlier earlier_mem =>
          (List.pairwise_append.mp agree).2.2 earlier earlier_mem option List.mem_cons_self
      have regrouped : seen ++ option :: rest = (seen ++ [option]) ++ rest := by simp
      rw [regrouped] at agree ⊢
      rw [List.map_cons, List.foldlM_cons, step]
      exact ih (fun other other_mem => known other (List.mem_cons_of_mem _ other_mem))
        (fun other other_mem => expressible other (List.mem_cons_of_mem _ other_mem)) agree

end Seen

/-- After the options come two dashes alone and the file. -/
theorem readArguments_argumentsOf {grammar : Grammar} {order : List GivenOption} {file : String}
    (known : ∀ option ∈ order, grammar.long.lookup option.name = some option.kind)
    (expressible : ∀ option ∈ order, option.IsExpressible)
    (agree : order.Pairwise GivenOption.Agrees) (nonempty : file ≠ "") :
    readArguments grammar (argumentsOf order file) =
      .ok { Draft.ofOptions order with file := some file } := by
  have options_read := foldlM_readArgument known expressible (List.nil_append order ▸ agree)
  have ends (draft : Draft) : ["--", file].foldlM (Reading.readArgument grammar) { draft } =
      .ok { draft, pending := some ⟨.file, some file⟩, hasFile := true, pastSeparator := true } := rfl
  have parsed : parsePath file = .ok file := if_neg nonempty
  rw [List.nil_append] at options_read
  have all_read : (argumentsOf order file).foldlM (Reading.readArgument grammar) {} =
      .ok { draft := .ofOptions order, pending := some ⟨.file, some file⟩, hasFile := true,
            pastSeparator := true } := by
    rw [argumentsOf, List.foldlM_append]
    exact (congrArg (· >>= _) options_read).trans (ends _)
  rw [readArguments, all_read]
  exact congrArg (Except.map fun file => { Draft.ofOptions order with file := some file }) parsed

/-! ## The options of a command -/

namespace EmitCommand

variable {command : EmitCommand} {order : List GivenOption}

theorem filterMap_indent?_options : command.options.filterMap GivenOption.indent? = [command.indent] := by
  have no_prefix : (command.prefixes.map GivenOption.packagePrefix).filterMap GivenOption.indent? = [] :=
    by simp
  rw [options, List.filterMap_append, no_prefix, singleOptions]
  cases command.outputFolder <;> cases command.noDeprecated <;> cases command.toStandardOutput <;> rfl

theorem filterMap_output?_options :
    command.options.filterMap GivenOption.output? = command.outputFolder.toList := by
  have no_prefix : (command.prefixes.map GivenOption.packagePrefix).filterMap GivenOption.output? = [] :=
    by simp
  rw [options, List.filterMap_append, no_prefix, singleOptions]
  cases command.outputFolder <;> cases command.noDeprecated <;> cases command.toStandardOutput <;> rfl

theorem noDeprecated_mem_options : .noDeprecated ∈ command.options ↔ command.noDeprecated = true := by
  simp [options, singleOptions]

theorem standardOutput_mem_options :
    .standardOutput ∈ command.options ↔ command.toStandardOutput = true := by
  simp [options, singleOptions]

theorem pairwise_map_packagePrefix (prefixes : List PackagePrefix) :
    (prefixes.map GivenOption.packagePrefix).Pairwise GivenOption.Agrees :=
  List.pairwise_map.mpr (List.pairwise_of_forall fun _ _ _ => rfl)

theorem pairwise_options : command.options.Pairwise GivenOption.Agrees := by
  have singles : command.singleOptions.Pairwise GivenOption.Agrees := by
    rw [singleOptions]
    cases command.outputFolder <;> cases command.noDeprecated <;> cases command.toStandardOutput <;>
      simp [GivenOption.Agrees, GivenOption.kind]
  refine List.pairwise_append.mpr ⟨pairwise_map_packagePrefix command.prefixes, singles,
    fun first first_mem second _ _ => ?_⟩
  obtain ⟨entry, -, rfl⟩ := List.mem_map.mp first_mem
  rfl

theorem isExpressible_of_mem_options (expressible : (Command.emit command).IsExpressible)
    {option : GivenOption} (option_mem : option ∈ command.options) : option.IsExpressible := by
  obtain ⟨-, prefixes, indent, folder, -⟩ := expressible
  cases option with
  | packagePrefix entry =>
      have entry_mem : entry ∈ command.prefixes := by simpa [options, singleOptions] using option_mem
      exact prefixes entry entry_mem
  | indent count =>
      have count_eq : count = command.indent := by simpa [options, singleOptions] using option_mem
      exact count_eq ▸ indent
  | output name =>
      have name_eq : command.outputFolder = some name := by
        simpa [options, singleOptions] using option_mem
      rintro rfl
      exact folder name_eq
  | noDeprecated => trivial
  | standardOutput => trivial

/-- The options in any order say what the command is. -/
theorem HasOrder.ofOptions_eq (ordered : command.HasOrder order) :
    Draft.ofOptions order =
      { outputFolder := command.outputFolder
        prefixes := command.prefixes.reverse
        indent := some command.indent
        noDeprecated := command.noDeprecated
        toStandardOutput := command.toStandardOutput } := by
  have indent_eq : order.findSome? GivenOption.indent? = some command.indent := by
    have perm := ordered.perm.filterMap GivenOption.indent?
    rw [filterMap_indent?_options, List.perm_singleton] at perm
    rw [← List.head?_filterMap, perm, List.head?_cons]
  have output_eq : order.findSome? GivenOption.output? = command.outputFolder := by
    have perm := ordered.perm.filterMap GivenOption.output?
    rw [filterMap_output?_options] at perm
    rw [← List.head?_filterMap]
    cases folder_eq : command.outputFolder with
    | none => rw [folder_eq] at perm; rw [List.perm_nil.mp perm]; rfl
    | some folder => rw [folder_eq] at perm; rw [List.perm_singleton.mp perm]; rfl
  have noDeprecated_eq : order.contains .noDeprecated = command.noDeprecated := by
    rw [Bool.eq_iff_iff, List.contains_iff_mem, ordered.perm.mem_iff, noDeprecated_mem_options]
  have standardOutput_eq : order.contains .standardOutput = command.toStandardOutput := by
    rw [Bool.eq_iff_iff, List.contains_iff_mem, ordered.perm.mem_iff, standardOutput_mem_options]
  rw [Draft.ofOptions, ordered.prefixes_eq, indent_eq, output_eq, noDeprecated_eq,
    standardOutput_eq]

end EmitCommand

theorem GivenOption.Agrees.symm {first second : GivenOption} (agrees : first.Agrees second) :
    second.Agrees first := fun same => same.trans (agrees same.symm)

theorem known_emitGrammar (option : GivenOption) :
    emitGrammar.long.lookup option.name = some option.kind := by
  cases option <;> rfl

/-! ## Command lines -/

section Commands

variable {command : EmitCommand} {order : List GivenOption}

theorem agree_of_hasOrder (ordered : command.HasOrder order) : order.Pairwise GivenOption.Agrees :=
  (ordered.perm.pairwise_iff GivenOption.Agrees.symm).mpr EmitCommand.pairwise_options

theorem isExpressible_of_hasOrder (expressible : (Command.emit command).IsExpressible)
    (ordered : command.HasOrder order) : ∀ option ∈ order, option.IsExpressible :=
  fun _ option_mem =>
    EmitCommand.isExpressible_of_mem_options expressible (ordered.perm.mem_iff.mp option_mem)

theorem parse_emit (expressible : (Command.emit command).IsExpressible)
    (ordered : command.HasOrder order) :
    parse ("emit" :: argumentsOf order command.file) = .ok (.emit command) := by
  have draft_read := readArguments_argumentsOf (fun option _ => known_emitGrammar option)
    (isExpressible_of_hasOrder expressible ordered) (agree_of_hasOrder ordered) expressible.1
  rw [ordered.ofOptions_eq] at draft_read
  have compatible : (command.toStandardOutput && command.outputFolder.isSome) = false := by
    obtain no_folder | not_printed := expressible.2.2.2.2
    · rw [no_folder]; exact Bool.and_false _
    · rw [not_printed]; rfl
  have emit_read : parseEmit (argumentsOf order command.file) = .ok command := by
    rw [parseEmit, draft_read]
    simp [bind, Except.bind, compatible, Draft.requireFile, pure, Except.pure]
  exact congrArg (Except.map Command.emit) emit_read

theorem parse_deps {command : DepsCommand} (expressible : (Command.deps command).IsExpressible) :
    parse ("deps" :: argumentsOf (command.prefixes.map .packagePrefix) command.file) =
      .ok (.deps command) := by
  have known : ∀ option ∈ command.prefixes.map GivenOption.packagePrefix,
      depsGrammar.long.lookup option.name = some option.kind :=
    List.forall_mem_map.mpr fun _ _ => rfl
  have options_expressible : ∀ option ∈ command.prefixes.map GivenOption.packagePrefix,
      option.IsExpressible :=
    List.forall_mem_map.mpr expressible.2
  have draft_read := readArguments_argumentsOf known options_expressible
    (EmitCommand.pairwise_map_packagePrefix command.prefixes) expressible.1
  have deps_read : parseDeps (argumentsOf (command.prefixes.map .packagePrefix) command.file) =
      .ok command := by
    rw [parseDeps, draft_read]
    simp only [Draft.ofOptions, filterMap_prefix?_map, List.reverse_reverse, bind, Except.bind,
      Draft.requireFile, pure, Except.pure]
  exact congrArg (Except.map Command.deps) deps_read

theorem parse_emit_conflict {before after : List GivenOption}
    (expressible : (Command.emit command).IsExpressible) (has_folder : command.outputFolder ≠ none)
    (ordered : command.HasOrder (before ++ after)) :
    parse ("emit" :: argumentsOf (before ++ .standardOutput :: after) command.file) =
      .error .conflict := by
  have not_printed : command.toStandardOutput = false := expressible.2.2.2.2.resolve_left has_folder
  have perm : (before ++ .standardOutput :: after).Perm (.standardOutput :: (before ++ after)) :=
    List.perm_middle
  have options_expressible : ∀ option ∈ before ++ .standardOutput :: after, option.IsExpressible := by
    intro option option_mem
    obtain rfl | given := List.mem_cons.mp (perm.mem_iff.mp option_mem)
    · trivial
    · exact isExpressible_of_hasOrder expressible ordered option given
  have new : ∀ option ∈ before ++ after, GivenOption.Agrees .standardOutput option := by
    intro option option_mem
    cases option with
    | standardOutput =>
        have printed := EmitCommand.standardOutput_mem_options.mp (ordered.perm.mem_iff.mp option_mem)
        rw [not_printed] at printed
        cases printed
    | _ => exact fun same => by cases same
  have agree : (before ++ .standardOutput :: after).Pairwise GivenOption.Agrees :=
    (perm.pairwise_iff GivenOption.Agrees.symm).mpr
      (List.pairwise_cons.mpr ⟨new, agree_of_hasOrder ordered⟩)
  have draft_read := readArguments_argumentsOf (fun option _ => known_emitGrammar option)
    options_expressible agree expressible.1
  have printed : (before ++ .standardOutput :: after).contains .standardOutput = true := by simp
  have folder_eq : (before ++ .standardOutput :: after).findSome? GivenOption.output? =
      command.outputFolder := by
    have without : (before ++ after).findSome? GivenOption.output? = command.outputFolder :=
      congrArg Draft.outputFolder ordered.ofOptions_eq
    rwa [List.findSome?_append, List.findSome?_cons_of_isNone rfl, ← List.findSome?_append]
  have emit_read : parseEmit (argumentsOf (before ++ .standardOutput :: after) command.file) =
      .error .conflict := by
    rw [parseEmit, draft_read]
    simp only [bind, Except.bind, Draft.ofOptions, printed, folder_eq]
    rw [Option.isSome_iff_ne_none.mpr has_folder]
    rfl
  exact congrArg (Except.map Command.emit) emit_read

end Commands

/-- Each command line of a command is read as the command, whatever the order of its options. With a
folder, the option to print is refused. -/
theorem parse_arguments {command : Command} (expressible : command.IsExpressible) :
    (∃ arguments, command.IsWritten arguments) ∧
      (∀ arguments, command.IsWritten arguments → parse arguments = .ok command) ∧
      ∀ (emit : EmitCommand) (before after : List GivenOption), command = .emit emit →
        emit.outputFolder ≠ none → emit.HasOrder (before ++ after) →
          parse ("emit" :: argumentsOf (before ++ .standardOutput :: after) emit.file) =
            .error .conflict := by
  refine ⟨?exists_line, ?read_back, ?refused⟩
  case exists_line =>
    cases command with
    | emit command => exact ⟨_, .emit command.hasOrder_options⟩
    | deps command => exact ⟨_, .deps command⟩
  case read_back =>
    rintro arguments (⟨ordered⟩ | _)
    · exact parse_emit expressible ordered
    · exact parse_deps expressible
  case refused =>
    rintro emit before after rfl has_folder ordered
    exact parse_emit_conflict expressible has_folder ordered

/-- The values hold equals signs, look like options and are not all of plain letters. -/
theorem parse_arguments_shuffled :
    parse ["emit", "--no-deprecated", "--prefix=com.ex=A=B", "--output=out=dir",
        "--prefix=--indent=é", "--indent=18446744073709551615", "--", "--stdout"] =
      .ok (.emit
        { file := "--stdout", outputFolder := some "out=dir"
          prefixes := [⟨"com.ex", "A=B"⟩, ⟨"--indent", "é"⟩]
          noDeprecated := true, indent := 18446744073709551615 }) ∧
    parse ["emit", "--no-deprecated", "--prefix=com.ex=A=B", "--stdout", "--output=out=dir",
        "--prefix=--indent=é", "--indent=18446744073709551615", "--", "--stdout"] =
      .error .conflict := by
  let command : EmitCommand :=
    { file := "--stdout", outputFolder := some "out=dir"
      prefixes := [⟨"com.ex", "A=B"⟩, ⟨"--indent", "é"⟩]
      noDeprecated := true, indent := 18446744073709551615 }
  let before : List GivenOption := [.noDeprecated, .packagePrefix ⟨"com.ex", "A=B"⟩]
  let after : List GivenOption :=
    [.output "out=dir", .packagePrefix ⟨"--indent", "é"⟩, .indent 18446744073709551615]
  have prefixes_expressible : ∀ entry ∈ command.prefixes, IsExpressiblePrefix entry :=
    List.forall_mem_cons.mpr ⟨⟨by decide, by decide, by decide⟩,
      List.forall_mem_singleton.mpr ⟨by decide, by decide, by decide⟩⟩
  have expressible : (Command.emit command).IsExpressible :=
    ⟨by decide, prefixes_expressible, by decide, by decide, .inr rfl⟩
  have ordered : command.HasOrder (before ++ after) := ⟨by decide, by decide⟩
  obtain ⟨-, read_back, refused⟩ := parse_arguments expressible
  exact ⟨read_back _ (.emit ordered), refused command before after rfl (by decide) ordered⟩

end HeaderForge.CommandLine
