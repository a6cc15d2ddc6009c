import HeaderForge.Proofs.Brackets.Lines
import HeaderForge.Proofs.Brackets.Words

/-!
# Blocks

Lines that open and close blocks alternate, and the head of a block that ends in a brace has one line
that closes it. Lines of this kind are closed under appending, so that it is enough to look at the parts
of a header one by one.
-/

namespace HeaderForge.Header

open Page (Step Writes IsLine indentedLine line lines indented)

/-! ## Kinds of lines -/

/-- The line opens a block. A protocol line that ends in a semicolon only says that a protocol exists. -/
def isOpener (text : String) : Bool :=
  Text.startsWith text "@interface "
    || (Text.startsWith text "@protocol " && !Text.endsWith text ";")

/-- The line closes a block. -/
def isCloser (text : String) : Bool := text == endLine

/-- The line opens or closes a block. -/
def isBracket (text : String) : Bool := isOpener text || isCloser text

/-- The line that closes the variables of a class. -/
def closingBrace : String := "\x7d"

/-- The line begins what is only read if a macro is not defined. -/
def isGuardStart (text : String) : Bool := Text.startsWith text "#ifndef"

/-- The line ends what is only read under a condition. -/
def isGuardEnd (text : String) : Bool := Text.startsWith text "#endif"

/-- The line changes settings of the compiler. -/
def isPragma (text : String) : Bool := Text.startsWith text "#pragma"

/-- The line is one of the directives around a header. -/
def isFrame (text : String) : Bool := isGuardStart text || isGuardEnd text || isPragma text

/-- The line neither opens nor closes anything. -/
structure Idle (text : String) : Prop where
  notOpener : isOpener text = false
  notCloser : isCloser text = false
  notBrace : text ≠ closingBrace

/-- The line neither opens nor closes anything, and is none of the directives around a header. -/
structure Quiet (text : String) : Prop extends Idle text where
  notFrame : isFrame text = false

theorem startsWith_eq_false_of_not_mem {c : Char} {text : String} (start : String)
    (c_mem : c ∈ start.toList) (c_absent : c ∉ text.toList) : Text.startsWith text start = false := by
  rw [Bool.eq_false_iff]
  intro starts
  have is_prefix_of := List.isPrefixOf_iff_prefix.mp starts
  exact c_absent (is_prefix_of.subset c_mem)

theorem startsWith_append_eq_false {text start : String} (rest : String)
    (differs : Text.startsWith text start = false) (short : Text.startsWith start text = false) :
    Text.startsWith (text ++ rest) start = false := by
  rw [Bool.eq_false_iff] at differs short ⊢
  intro starts
  have start_prefix := List.isPrefixOf_iff_prefix.mp starts
  have text_prefix : text.toList <+: (text ++ rest).toList := by simp
  rcases List.prefix_or_prefix_of_prefix start_prefix text_prefix with within | within
  · exact differs (List.isPrefixOf_iff_prefix.mpr within)
  · exact short (List.isPrefixOf_iff_prefix.mpr within)

theorem startsWith_eq_false_of_head {text : String} {c d : Char} (start : String)
    (head_eq : text.toList.head? = some c) (start_eq : start.toList.head? = some d)
    (different : c ≠ d) : Text.startsWith text start = false := by
  rw [Bool.eq_false_iff]
  intro starts
  obtain ⟨rest, text_eq⟩ := List.isPrefixOf_iff_prefix.mp starts
  rw [← text_eq, List.head?_append, start_eq] at head_eq
  exact different (Option.some.inj head_eq).symm

theorem endsWith_eq_false_of_last {text ending : String} {c d : Char}
    (last_eq : text.toList.getLast? = some c) (ending_eq : ending.toList = [d]) (different : c ≠ d) :
    Text.endsWith text ending = false := by
  rw [Bool.eq_false_iff]
  intro ends
  obtain ⟨before, text_eq⟩ := List.isSuffixOf_iff_suffix.mp ends
  rw [← text_eq, ending_eq, List.getLast?_concat] at last_eq
  exact different (Option.some.inj last_eq).symm

theorem isLine_of_clean {text : String} (clean : Clean text) : IsLine text :=
  fun feed_mem => (clean '\n' feed_mem).1 rfl

theorem quiet_of_clean {text : String} (clean : Clean text) (not_brace : text ≠ closingBrace) :
    Quiet text := by
  have no_at : '@' ∉ text.toList := fun at_mem => (clean '@' at_mem).2.1 rfl
  have no_hash : '#' ∉ text.toList := fun hash_mem => (clean '#' hash_mem).2.2 rfl
  refine ⟨⟨?_, ?_, not_brace⟩, ?_⟩
  · simp [isOpener, startsWith_eq_false_of_not_mem "@interface " (by decide) no_at,
      startsWith_eq_false_of_not_mem "@protocol " (by decide) no_at]
  · rw [isCloser, beq_eq_false_iff_ne]
    rintro rfl
    exact no_at (by decide)
  · simp [isFrame, isGuardStart, isGuardEnd, isPragma,
      startsWith_eq_false_of_not_mem "#ifndef" (by decide) no_hash,
      startsWith_eq_false_of_not_mem "#endif" (by decide) no_hash,
      startsWith_eq_false_of_not_mem "#pragma" (by decide) no_hash]

theorem clean_indentedLine {text : String} (clean : Clean text) (spaces : Nat) :
    Clean (indentedLine spaces text) := by
  unfold indentedLine
  split
  · decide
  · rw [clean_append, clean_ofList_iff]
    refine ⟨?_, clean⟩
    intro c c_mem
    rw [List.eq_of_mem_replicate c_mem]
    decide

theorem indentedLine_ne_closingBrace {text : String} (not_brace : text ≠ closingBrace)
    (spaces : Nat) : indentedLine spaces text ≠ closingBrace := by
  unfold indentedLine
  split
  · decide
  · cases spaces with
    | zero => simpa using not_brace
    | succ spaces =>
        intro brace_eq
        have chars_eq := congrArg String.toList brace_eq
        simp [closingBrace, List.replicate_succ] at chars_eq

/-- What lines that open, close or frame blocks start with. -/
def marks : List String :=
  ["@interface ", "@protocol ", endLine, closingBrace, "#ifndef", "#endif", "#pragma"]

/-- No line that starts so opens, closes or frames a block, however it goes on. -/
def IsQuietStart (start : String) : Prop :=
  ∀ mark ∈ marks, Text.startsWith start mark = false ∧ Text.startsWith mark start = false

instance : DecidablePred IsQuietStart := fun start =>
  List.decidableBAll
    (fun mark => Text.startsWith start mark = false ∧ Text.startsWith mark start = false) marks

theorem quiet_append {start : String} (quiet_start : IsQuietStart start) (rest : String) :
    Quiet (start ++ rest) := by
  have differs : ∀ mark ∈ marks, Text.startsWith (start ++ rest) mark = false := fun mark mark_mem =>
    startsWith_append_eq_false rest (quiet_start mark mark_mem).1 (quiet_start mark mark_mem).2
  have starts_self : ∀ mark, Text.startsWith mark mark = true := by simp [Text.startsWith]
  simp only [marks, List.forall_mem_cons] at differs
  obtain ⟨interface_differs, protocol_differs, end_differs, brace_differs, ifndef_differs,
    endif_differs, pragma_differs, -⟩ := differs
  refine ⟨⟨?_, ?_, ?_⟩, ?_⟩
  · simp [isOpener, interface_differs, protocol_differs]
  · rw [isCloser, beq_eq_false_iff_ne]
    intro end_eq
    rw [end_eq, starts_self] at end_differs
    cases end_differs
  · intro brace_eq
    rw [brace_eq, starts_self] at brace_differs
    cases brace_differs
  · simp [isFrame, isGuardStart, isGuardEnd, isPragma, ifndef_differs, endif_differs, pragma_differs]

/-! ## Sequences of blocks -/

/-- Lines of so many blocks, with other lines between them. -/
inductive Blocks : Nat → List String → Prop where
  | nil : Blocks 0 []
  | idle {count : Nat} {text : String} {rest : List String} (text_idle : Idle text)
      (rest_blocks : Blocks count rest) : Blocks count (text :: rest)
  | plain {count : Nat} {opener : String} {inside rest : List String}
      (opens : isOpener opener = true) (unbraced : Text.endsWith opener "\x7b" = false)
      (inside_idle : ∀ text ∈ inside, Idle text) (rest_blocks : Blocks count rest) :
      Blocks (count + 1) (opener :: (inside ++ endLine :: rest))
  | braced {count : Nat} {opener : String} {above below rest : List String}
      (opens : isOpener opener = true) (above_idle : ∀ text ∈ above, Idle text)
      (below_idle : ∀ text ∈ below, Idle text) (rest_blocks : Blocks count rest) :
      Blocks (count + 1) (opener :: (above ++ closingBrace :: (below ++ endLine :: rest)))

theorem blocks_of_idle {texts : List String} (idle : ∀ text ∈ texts, Idle text) : Blocks 0 texts := by
  induction texts with
  | nil => exact .nil
  | cons text rest ih =>
      rw [List.forall_mem_cons] at idle
      exact .idle idle.1 (ih idle.2)

theorem Blocks.append {first second : Nat} {above below : List String}
    (above_blocks : Blocks first above) (below_blocks : Blocks second below) :
    Blocks (first + second) (above ++ below) := by
  induction above_blocks with
  | nil => simpa using below_blocks
  | idle text_idle rest_blocks ih => exact .idle text_idle ih
  | @plain count opener inside rest opens unbraced inside_idle rest_blocks ih =>
      have appended := Blocks.plain opens unbraced inside_idle ih
      rw [Nat.add_right_comm]
      simpa using appended
  | @braced count opener above below rest opens above_idle below_idle rest_blocks ih =>
      have appended := Blocks.braced opens above_idle below_idle ih
      rw [Nat.add_right_comm]
      simpa using appended

theorem filter_isBracket_of_idle {texts : List String} (idle : ∀ text ∈ texts, Idle text) :
    texts.filter isBracket = [] := by
  rw [List.filter_eq_nil_iff]
  intro text text_mem
  simp [isBracket, (idle text text_mem).notOpener, (idle text text_mem).notCloser]

theorem isBracket_of_opens {opener : String} (opens : isOpener opener = true) :
    isBracket opener = true := by
  rw [isBracket, opens, Bool.true_or]

/-- Of the lines that open or close blocks, every other one opens a block, from the first on. -/
theorem Blocks.alternate {count : Nat} {texts : List String} (blocks : Blocks count texts) :
    (texts.filter isBracket).map isOpener = (List.replicate count [true, false]).flatten := by
  have closer : isBracket endLine = true ∧ isOpener endLine = false := by decide
  have brace : isBracket closingBrace = false := by decide
  induction blocks with
  | nil => rfl
  | idle text_idle rest_blocks ih =>
      simp [isBracket, text_idle.notOpener, text_idle.notCloser] at ih ⊢
      exact ih
  | plain opens unbraced inside_idle rest_blocks ih =>
      simp [isBracket_of_opens opens, filter_isBracket_of_idle inside_idle, closer,
        opens, ih, List.replicate_succ]
  | braced opens above_idle below_idle rest_blocks ih =>
      simp [isBracket_of_opens opens, filter_isBracket_of_idle above_idle,
        filter_isBracket_of_idle below_idle, closer, brace, opens, ih, List.replicate_succ]

/-- What starts with an opener does so behind all lines that are none. -/
theorem suffix_of_suffix_append {opener : String} {after rest : List String}
    (skipped : List String) (opens : isOpener opener = true)
    (others : ∀ text ∈ skipped, isOpener text = false)
    (suffix : opener :: after <:+ skipped ++ rest) : opener :: after <:+ rest := by
  induction skipped with
  | nil => exact suffix
  | cons text skipped ih =>
      rw [List.forall_mem_cons] at others
      rcases List.suffix_cons_iff.mp suffix with same | suffix
      · obtain ⟨rfl, -⟩ := List.cons.inj same
        rw [opens] at others
        exact absurd others.1 (by decide)
      · exact ih others.2 suffix

theorem takeWhile_to_closer {inside : List String} (rest : List String)
    (open_still : ∀ text ∈ inside, isCloser text = false) :
    (inside ++ endLine :: rest).takeWhile (fun text => !isCloser text) = inside := by
  have closer : isCloser endLine = true := by decide
  rw [List.takeWhile_append_of_pos fun text text_mem => by rw [open_still text text_mem]; rfl]
  simp [closer]

theorem count_brace_of_idle {texts : List String} (idle : ∀ text ∈ texts, Idle text) :
    texts.count closingBrace = 0 :=
  List.count_eq_zero.mpr fun brace_mem => (idle closingBrace brace_mem).notBrace rfl

/-- Behind an opener that ends in a brace, there is one closing brace before the next closer. -/
theorem Blocks.braces {count : Nat} {texts : List String} (blocks : Blocks count texts)
    {opener : String} {after : List String} (suffix : opener :: after <:+ texts)
    (opens : isOpener opener = true) (open_brace : Text.endsWith opener "\x7b" = true) :
    (after.takeWhile fun text => !isCloser text).count closingBrace = 1 := by
  have closer_idle : isOpener endLine = false := by decide
  have brace_idle : isOpener closingBrace = false ∧ isCloser closingBrace = false := by decide
  -- The opener is that of the first block, or it stands behind that block's closer.
  induction blocks with
  | nil => simp at suffix
  | @idle count text rest text_idle rest_blocks ih =>
      apply ih
      exact suffix_of_suffix_append [text] opens (by simpa using text_idle.notOpener)
        suffix
  | @plain count block_opener inside rest block_opens unbraced inside_idle rest_blocks ih =>
      rcases List.suffix_cons_iff.mp suffix with same | suffix
      · obtain ⟨rfl, -⟩ := List.cons.inj same
        rw [unbraced] at open_brace
        exact absurd open_brace (by decide)
      · apply ih
        refine suffix_of_suffix_append (inside ++ [endLine]) opens ?_ (by simpa using suffix)
        rw [List.forall_mem_append]
        exact ⟨fun text text_mem => (inside_idle text text_mem).notOpener, by simpa using closer_idle⟩
  | @braced count block_opener above below rest block_opens above_idle below_idle rest_blocks ih =>
      have inside_eq : above ++ closingBrace :: (below ++ endLine :: rest) =
          (above ++ closingBrace :: below) ++ endLine :: rest := by simp
      rw [inside_eq] at suffix
      rcases List.suffix_cons_iff.mp suffix with same | suffix
      · obtain ⟨-, rfl⟩ := List.cons.inj same
        rw [takeWhile_to_closer]
        · rw [List.count_append, List.count_cons_self, count_brace_of_idle above_idle,
            count_brace_of_idle below_idle]
        · rw [List.forall_mem_append, List.forall_mem_cons]
          exact ⟨fun text text_mem => (above_idle text text_mem).notCloser, brace_idle.2,
            fun text text_mem => (below_idle text text_mem).notCloser⟩
      · apply ih
        refine suffix_of_suffix_append
          ((above ++ closingBrace :: below) ++ [endLine]) opens ?_ (by simpa using suffix)
        rw [List.forall_mem_append, List.forall_mem_append, List.forall_mem_cons]
        exact ⟨⟨fun text text_mem => (above_idle text text_mem).notOpener, brace_idle.1,
          fun text text_mem => (below_idle text text_mem).notOpener⟩, by simpa using closer_idle⟩

/-! ## Steps that write quiet lines -/

/-- At a level, the steps write quiet lines. -/
def WritesQuiet (width level : Nat) (steps : List Step) : Prop :=
  ∃ texts, Writes width level steps texts ∧ ∀ text ∈ texts, Quiet text

section

variable {width level : Nat}

theorem writesQuiet_nil : WritesQuiet width level [] := ⟨[], Page.writes_nil, by simp⟩

theorem WritesQuiet.append {first second : List Step} (first_writes : WritesQuiet width level first)
    (second_writes : WritesQuiet width level second) :
    WritesQuiet width level (first ++ second) := by
  obtain ⟨above, above_written, above_quiet⟩ := first_writes
  obtain ⟨below, below_written, below_quiet⟩ := second_writes
  exact ⟨above ++ below, above_written.append below_written,
    List.forall_mem_append.mpr ⟨above_quiet, below_quiet⟩⟩

theorem quiet_empty : Quiet "" := quiet_of_clean (by decide) (by decide)

theorem writesQuiet_newline : WritesQuiet width level [.newline] :=
  ⟨[""], Page.writes_newline, by simpa using quiet_empty⟩

theorem WritesQuiet.newline_cons {steps : List Step} (writes : WritesQuiet width level steps) :
    WritesQuiet width level (.newline :: steps) :=
  writesQuiet_newline.append writes

theorem writesQuiet_line {text : String} (clean : Clean text) (not_brace : text ≠ closingBrace) :
    WritesQuiet width level (line text) := by
  refine ⟨_, Page.writes_line (isLine_of_clean clean), ?_⟩
  rw [List.forall_mem_singleton]
  exact quiet_of_clean (clean_indentedLine clean _) (indentedLine_ne_closingBrace not_brace _)

theorem writesQuiet_line_outermost {text : String} (single : IsLine text) (quiet : Quiet text) :
    WritesQuiet width 0 (line text) :=
  ⟨[text], Page.writes_line_outermost single, by simpa using quiet⟩

theorem writesQuiet_start {start rest : String} (quiet_start : IsQuietStart start)
    (start_single : IsLine start) (rest_single : IsLine rest) :
    WritesQuiet width 0 (line (start ++ rest)) := by
  refine writesQuiet_line_outermost ?_ (quiet_append quiet_start rest)
  rw [IsLine, String.toList_append, List.mem_append, not_or]
  exact ⟨start_single, rest_single⟩

theorem writesQuiet_flatMap {values : List α} {write : α → List Step}
    (writes : ∀ value ∈ values, WritesQuiet width level (write value)) :
    WritesQuiet width level (values.flatMap write) := by
  induction values with
  | nil => exact writesQuiet_nil
  | cons value rest ih =>
      rw [List.forall_mem_cons] at writes
      rw [List.flatMap_cons]
      exact writes.1.append (ih writes.2)

theorem writesQuiet_lines {texts : List String}
    (writes : ∀ text ∈ texts, WritesQuiet width level (line text)) :
    WritesQuiet width level (lines texts) :=
  writesQuiet_flatMap writes

theorem WritesQuiet.indented {steps : List Step} (writes : WritesQuiet width (level + 1) steps) :
    WritesQuiet width level (indented steps) := by
  obtain ⟨texts, written, quiet⟩ := writes
  exact ⟨texts, written.indented, quiet⟩

end

/-! ## Steps that write blocks -/

/-- The steps write at least so many blocks, and none of the directives around a header. -/
def WritesBlocks (width least : Nat) (steps : List Step) : Prop :=
  ∃ count texts, least ≤ count ∧ Writes width 0 steps texts ∧ Blocks count texts ∧
    ∀ text ∈ texts, isFrame text = false

/-- The line opens a block without variables. -/
structure IsPlainHead (text : String) : Prop where
  single : IsLine text
  opens : isOpener text = true
  unbraced : Text.endsWith text "\x7b" = false

section

variable {width : Nat}

theorem WritesQuiet.blocks {steps : List Step} (writes : WritesQuiet width 0 steps) :
    WritesBlocks width 0 steps := by
  obtain ⟨texts, written, quiet⟩ := writes
  exact ⟨0, texts, Nat.le_refl 0, written,
    blocks_of_idle fun text text_mem => (quiet text text_mem).toIdle,
    fun text text_mem => (quiet text text_mem).notFrame⟩

theorem WritesBlocks.append {first second : Nat} {above below : List Step}
    (above_writes : WritesBlocks width first above)
    (below_writes : WritesBlocks width second below) :
    WritesBlocks width (first + second) (above ++ below) := by
  obtain ⟨above_count, above_texts, above_least, above_written, above_blocks, above_frameless⟩ :=
    above_writes
  obtain ⟨below_count, below_texts, below_least, below_written, below_blocks, below_frameless⟩ :=
    below_writes
  exact ⟨above_count + below_count, above_texts ++ below_texts,
    Nat.add_le_add above_least below_least, above_written.append below_written,
    above_blocks.append below_blocks,
    List.forall_mem_append.mpr ⟨above_frameless, below_frameless⟩⟩

theorem WritesBlocks.quiet_append {least : Nat} {above below : List Step}
    (above_writes : WritesQuiet width 0 above) (below_writes : WritesBlocks width least below) :
    WritesBlocks width least (above ++ below) := by
  simpa using above_writes.blocks.append below_writes

theorem WritesBlocks.append_quiet {least : Nat} {above below : List Step}
    (above_writes : WritesBlocks width least above) (below_writes : WritesQuiet width 0 below) :
    WritesBlocks width least (above ++ below) :=
  above_writes.append below_writes.blocks

theorem WritesBlocks.of_le {least fewer : Nat} {steps : List Step}
    (writes : WritesBlocks width least steps) (fewer_le : fewer ≤ least) :
    WritesBlocks width fewer steps := by
  obtain ⟨count, texts, least_le, rest⟩ := writes
  exact ⟨count, texts, Nat.le_trans fewer_le least_le, rest⟩

/-- A line written in two parts is written whole. -/
theorem WritesBlocks.of_joined {least : Nat} {start ending : String} {rest : List Step}
    (writes : WritesBlocks width least (line (start ++ ending) ++ rest)) :
    WritesBlocks width least (.write start :: (line ending ++ rest)) := by
  obtain ⟨count, texts, least_le, written, blocks⟩ := writes
  refine ⟨count, texts, least_le, ⟨written.single, fun before => ?_⟩, blocks⟩
  rw [← written.run_eq before]
  simp [line, Page.write_append]

/-- Every value writes a block. -/
theorem writesBlocks_flatMap {values : List α} {write : α → List Step}
    (writes : ∀ value ∈ values, WritesBlocks width 1 (write value)) :
    WritesBlocks width values.length (values.flatMap write) := by
  induction values with
  | nil => exact writesQuiet_nil.blocks
  | cons value rest ih =>
      rw [List.forall_mem_cons] at writes
      rw [List.flatMap_cons, List.length_cons, Nat.add_comm]
      exact writes.1.append (ih writes.2)

/-- What starts with an at sign is none of the directives around a header. -/
theorem isFrame_of_opens {opener : String} (opens : isOpener opener = true) :
    isFrame opener = false := by
  have head_eq : opener.toList.head? = some '@' := by
    rw [isOpener, Bool.or_eq_true, Bool.and_eq_true] at opens
    rcases opens with starts | ⟨starts, -⟩
    · obtain ⟨rest, text_eq⟩ := List.isPrefixOf_iff_prefix.mp starts
      rw [← text_eq]
      rfl
    · obtain ⟨rest, text_eq⟩ := List.isPrefixOf_iff_prefix.mp starts
      rw [← text_eq]
      rfl
  simp [isFrame, isGuardStart, isGuardEnd, isPragma,
    startsWith_eq_false_of_head "#ifndef" head_eq rfl (by decide),
    startsWith_eq_false_of_head "#endif" head_eq rfl (by decide),
    startsWith_eq_false_of_head "#pragma" head_eq rfl (by decide)]

theorem writesBlocks_plain {opener : String} {inside : List Step} (head : IsPlainHead opener)
    (inside_writes : WritesQuiet width 0 inside) :
    WritesBlocks width 1 (line opener ++ inside ++ line endLine) := by
  obtain ⟨texts, written, quiet⟩ := inside_writes
  have closer_single : IsLine endLine := by simp [IsLine, endLine]
  have closer_frameless : isFrame endLine = false := by decide
  refine ⟨1, [opener] ++ texts ++ [endLine], Nat.le_refl 1,
    ((Page.writes_line_outermost head.single).append written).append
      (Page.writes_line_outermost closer_single), ?_, ?_⟩
  · have blocks := Blocks.plain head.opens head.unbraced
      (fun text text_mem => (quiet text text_mem).toIdle) Blocks.nil
    simpa using blocks
  · simp only [List.forall_mem_append, List.forall_mem_singleton]
    exact ⟨⟨isFrame_of_opens head.opens, fun text text_mem => (quiet text text_mem).notFrame⟩,
      closer_frameless⟩

theorem writesBlocks_braced {opener : String} {above below : List Step} (single : IsLine opener)
    (opens : isOpener opener = true) (above_writes : WritesQuiet width 0 above)
    (below_writes : WritesQuiet width 0 below) :
    WritesBlocks width 1 (line opener ++ above ++ line closingBrace ++ below ++ line endLine) := by
  obtain ⟨above_texts, above_written, above_quiet⟩ := above_writes
  obtain ⟨below_texts, below_written, below_quiet⟩ := below_writes
  have closer_single : IsLine endLine := by simp [IsLine, endLine]
  have brace_single : IsLine closingBrace := by simp [IsLine, closingBrace]
  have frameless : isFrame endLine = false ∧ isFrame closingBrace = false := by decide
  refine ⟨1, [opener] ++ above_texts ++ [closingBrace] ++ below_texts ++ [endLine], Nat.le_refl 1,
    ((((Page.writes_line_outermost single).append above_written).append
      (Page.writes_line_outermost brace_single)).append below_written).append
      (Page.writes_line_outermost closer_single), ?_, ?_⟩
  · have blocks := Blocks.braced opens
      (fun text text_mem => (above_quiet text text_mem).toIdle)
      (fun text text_mem => (below_quiet text text_mem).toIdle) Blocks.nil
    simpa using blocks
  · simp only [List.forall_mem_append, List.forall_mem_singleton]
    exact ⟨⟨⟨⟨isFrame_of_opens opens, fun text text_mem => (above_quiet text text_mem).notFrame⟩,
      frameless.2⟩, fun text text_mem => (below_quiet text text_mem).notFrame⟩, frameless.1⟩

end

end HeaderForge.Header
