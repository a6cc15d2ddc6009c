import HeaderForge.Proofs.Brackets.Declarations
import HeaderForge.Proofs.Settled

/-!
# Brackets of headers

In the header of a unit without comments, whose words are all clean, blocks alternate with other lines,
one guard stands around them, and the settings of warnings are saved and restored if they are changed.
-/

namespace HeaderForge

/-- The comments of the declarations of the unit, and of their members. -/
def SourceUnit.docs (unit : SourceUnit) : List String := unit.declarations.flatMap Declaration.docs

namespace Header

open Page (Step Writes IsLine ended line lines)

/-- Lines whose blocks are complete, inside a guard, with the settings of warnings that they need. -/
structure WellBracketed (guard : String) (marksDeprecated : Bool) (least : Nat)
    (texts : List String) : Prop where
  /-- Lines that open blocks and lines that close them take turns, and an opener is the first of them. -/
  alternate : ∃ count, least ≤ count ∧
    (texts.filter isBracket).map isOpener = (List.replicate count [true, false]).flatten
  /-- Between an opener that ends in a brace and the next closer, one line closes the brace. -/
  braces : ∀ opener after, opener :: after <:+ texts → isOpener opener = true →
    Text.endsWith opener "\x7b" = true →
    (after.takeWhile fun text => !isCloser text).count closingBrace = 1
  /-- The guard stands around all blocks. -/
  guarded : ∃ above inside below,
    texts = above ++ ("#ifndef " ++ guard) :: (inside ++ ("#endif // " ++ guard) :: below) ∧
      ∀ text ∈ above ++ below, isBracket text = false
  /-- The guard begins once. -/
  begun : texts.filter isGuardStart = ["#ifndef " ++ guard]
  /-- The guard ends once. -/
  ended : texts.filter isGuardEnd = ["#endif // " ++ guard]
  /-- The settings of warnings are saved and restored once, or not changed at all. -/
  warnings : texts.filter isPragma =
    if marksDeprecated then
      [SupportLibrary.saveWarnings, SupportLibrary.allowDeprecated, SupportLibrary.restoreWarnings]
    else
      []

/-! ## Frames -/

theorem idle_of_hash {text : String} (head_eq : text.toList.head? = some '#') : Idle text := by
  refine ⟨?_, ?_, ?_⟩
  · simp [isOpener, startsWith_eq_false_of_head "@interface " head_eq rfl (by decide),
      startsWith_eq_false_of_head "@protocol " head_eq rfl (by decide)]
  · rw [isCloser, beq_eq_false_iff_ne]
    rintro rfl
    exact absurd head_eq (by decide)
  · rintro rfl
    exact absurd head_eq (by decide)

theorem filter_frame_of_frameless {texts : List String}
    (frameless : ∀ text ∈ texts, isFrame text = false) :
    texts.filter isGuardStart = [] ∧ texts.filter isGuardEnd = [] ∧ texts.filter isPragma = [] := by
  simp only [isFrame, Bool.or_eq_false_iff] at frameless
  simp only [List.filter_eq_nil_iff, Bool.not_eq_true]
  exact ⟨fun text text_mem => (frameless text text_mem).1.1,
    fun text text_mem => (frameless text text_mem).1.2,
    fun text text_mem => (frameless text text_mem).2⟩

/-- Lines that are only written where deprecated declarations are marked. -/
def markingTexts (marksDeprecated : Bool) (texts : List String) : List String :=
  if marksDeprecated then texts else []

/-- The lines inside the guard, from those of the dependencies and declarations. -/
def guardedTexts (guard : String) (marksDeprecated : Bool) (inside : List String) : List String :=
  ("#define " ++ guard) ::
    (markingTexts marksDeprecated [SupportLibrary.saveWarnings, SupportLibrary.allowDeprecated]
      ++ inside ++ markingTexts marksDeprecated [SupportLibrary.restoreWarnings])

/-- The lines of a header, with the empty one after its last line feed. -/
def framed (guard : String) (marksDeprecated : Bool) (above inside : List String) : List String :=
  above ++ ("#ifndef " ++ guard) ::
    (guardedTexts guard marksDeprecated inside ++ ["#endif // " ++ guard, ""])

theorem idle_markingTexts (marksDeprecated : Bool) {texts : List String}
    (idle : ∀ text ∈ texts, Idle text) : ∀ text ∈ markingTexts marksDeprecated texts, Idle text := by
  cases marksDeprecated with
  | true => exact idle
  | false => simp [markingTexts]

theorem blocks_guardedTexts (guard : String) (marksDeprecated : Bool) {inside : List String}
    {count : Nat} (inside_blocks : Blocks count inside) :
    Blocks count (guardedTexts guard marksDeprecated inside) := by
  have saved_idle : ∀ text ∈ markingTexts marksDeprecated
      [SupportLibrary.saveWarnings, SupportLibrary.allowDeprecated], Idle text :=
    idle_markingTexts marksDeprecated (by
      simp only [List.forall_mem_cons]
      exact ⟨idle_of_hash rfl, idle_of_hash rfl, by simp⟩)
  have restored_idle : ∀ text ∈ markingTexts marksDeprecated [SupportLibrary.restoreWarnings],
      Idle text :=
    idle_markingTexts marksDeprecated (by
      rw [List.forall_mem_singleton]
      exact idle_of_hash rfl)
  have blocks := ((blocks_of_idle saved_idle).append inside_blocks).append
    (blocks_of_idle restored_idle)
  rw [Nat.zero_add] at blocks
  exact .idle (idle_of_hash (by simp)) blocks

theorem blocks_framed (guard : String) (marksDeprecated : Bool) {above inside : List String}
    {count : Nat} (above_quiet : ∀ text ∈ above, Quiet text) (inside_blocks : Blocks count inside) :
    Blocks count (framed guard marksDeprecated above inside) := by
  have above_idle : ∀ text ∈ above, Idle text :=
    fun text text_mem => (above_quiet text text_mem).toIdle
  have below_idle : ∀ text ∈ ["#endif // " ++ guard, ""], Idle text := by
    simp only [List.forall_mem_cons]
    exact ⟨idle_of_hash (by simp), quiet_empty.toIdle, by simp⟩
  have guarded := (blocks_guardedTexts guard marksDeprecated inside_blocks).append
    (blocks_of_idle below_idle)
  have begin_idle : Idle ("#ifndef " ++ guard) := idle_of_hash (by simp)
  have blocks := (blocks_of_idle above_idle).append (.idle begin_idle guarded)
  rw [Nat.zero_add] at blocks
  exact blocks

/-- Of the lines of a header, a test that fails for what its parts hold finds directives only. -/
theorem filter_framed {guard : String} (marksDeprecated : Bool) {above inside : List String}
    {test : String → Bool} (above_fails : above.filter test = [])
    (inside_fails : inside.filter test = []) (define_fails : test ("#define " ++ guard) = false)
    (empty_fails : test "" = false) :
    (framed guard marksDeprecated above inside).filter test =
      ["#ifndef " ++ guard].filter test
        ++ (markingTexts marksDeprecated [SupportLibrary.saveWarnings,
          SupportLibrary.allowDeprecated, SupportLibrary.restoreWarnings]).filter test
        ++ ["#endif // " ++ guard].filter test := by
  have guarded_eq : (guardedTexts guard marksDeprecated inside).filter test =
      (markingTexts marksDeprecated [SupportLibrary.saveWarnings,
        SupportLibrary.allowDeprecated, SupportLibrary.restoreWarnings]).filter test := by
    rw [guardedTexts, List.filter_cons_of_neg (by simp [define_fails]), List.filter_append,
      List.filter_append, inside_fails, List.append_nil, ← List.filter_append]
    cases marksDeprecated <;> rfl
  have last_eq : ["#endif // " ++ guard, ""].filter test = ["#endif // " ++ guard].filter test := by
    simp [List.filter_cons, empty_fails]
  have cons_eq : ∀ rest : List String, (("#ifndef " ++ guard) :: rest).filter test =
      ["#ifndef " ++ guard].filter test ++ rest.filter test := fun rest => by
    rw [← List.filter_append, List.singleton_append]
  rw [framed, List.filter_append, above_fails, List.nil_append, cons_eq, List.filter_append,
    guarded_eq, last_eq, List.append_assoc]

theorem wellBracketed_framed (guard : String) (marksDeprecated : Bool) {above inside : List String}
    {least count : Nat} (least_le : least ≤ count) (above_quiet : ∀ text ∈ above, Quiet text)
    (inside_blocks : Blocks count inside) (frameless : ∀ text ∈ inside, isFrame text = false) :
    WellBracketed guard marksDeprecated least (framed guard marksDeprecated above inside) := by
  have blocks := blocks_framed guard marksDeprecated above_quiet inside_blocks
  obtain ⟨above_start, above_end, above_pragma⟩ := filter_frame_of_frameless fun text text_mem =>
    (above_quiet text text_mem).notFrame
  obtain ⟨inside_start, inside_end, inside_pragma⟩ := filter_frame_of_frameless frameless
  have begins : isGuardStart ("#ifndef " ++ guard) = true ∧
      isGuardEnd ("#ifndef " ++ guard) = false ∧ isPragma ("#ifndef " ++ guard) = false := by
    simp [isGuardStart, isGuardEnd, isPragma, Text.startsWith, List.isPrefixOf]
  have defines : isGuardStart ("#define " ++ guard) = false ∧
      isGuardEnd ("#define " ++ guard) = false ∧ isPragma ("#define " ++ guard) = false := by
    simp [isGuardStart, isGuardEnd, isPragma, Text.startsWith, List.isPrefixOf]
  have ends : isGuardStart ("#endif // " ++ guard) = false ∧
      isGuardEnd ("#endif // " ++ guard) = true ∧ isPragma ("#endif // " ++ guard) = false := by
    simp [isGuardStart, isGuardEnd, isPragma, Text.startsWith, List.isPrefixOf]
  refine ⟨⟨count, least_le, blocks.alternate⟩, fun opener after => blocks.braces, ?_, ?_, ?_, ?_⟩
  · refine ⟨above, guardedTexts guard marksDeprecated inside, [""], rfl, ?_⟩
    rw [List.forall_mem_append, List.forall_mem_singleton]
    refine ⟨fun text text_mem => ?_, by decide⟩
    rw [isBracket, (above_quiet text text_mem).notOpener, (above_quiet text text_mem).notCloser]
    rfl
  · rw [filter_framed marksDeprecated above_start inside_start defines.1 (by decide)]
    cases marksDeprecated <;> simp [begins, ends] <;> decide
  · rw [filter_framed marksDeprecated above_end inside_end defines.2.1 (by decide)]
    cases marksDeprecated <;> simp [begins, ends] <;> decide
  · rw [filter_framed marksDeprecated above_pragma inside_pragma defines.2.2 (by decide)]
    cases marksDeprecated <;> simp [begins, ends] <;> decide

/-! ## Parts of a unit -/

/-- The lines of the default banner. -/
def bannerTexts (sourceFile : String) : List String :=
  ["//", "//  Generated by the J2ObjC translator.  DO NOT EDIT!", "//  source: " ++ sourceFile, "//",
    ""]

variable {context : Context} {width : Nat}

theorem bannerFor_ended {settings : Settings} (banner_eq : settings.banner = ({} : Settings).banner)
    (sourceFile : String) :
    settings.bannerFor sourceFile ++ "\n" = ended (bannerTexts sourceFile) := by
  have banner_text : Text.substitute sourcePlace sourceFile ({} : Settings).banner =
      "//\n//  Generated by the J2ObjC translator.  DO NOT EDIT!\n//  source: " ++ sourceFile
        ++ "\n//\n" := by
    apply String.toList_inj.mp
    simp [Text.substitute, sourcePlace, Text.substituteChars]
  rw [Settings.bannerFor, banner_eq, banner_text]
  apply String.toList_inj.mp
  simp [bannerTexts]

theorem quiet_bannerTexts {sourceFile : String} (clean : Clean sourceFile) :
    ∀ text ∈ bannerTexts sourceFile, Quiet text ∧ IsLine text := by
  have words_quiet : ∀ text, Clean text → text ≠ closingBrace → Quiet text ∧ IsLine text :=
    fun text text_clean not_brace => ⟨quiet_of_clean text_clean not_brace, isLine_of_clean text_clean⟩
  have source_quiet : Quiet ("//  source: " ++ sourceFile) := quiet_append (by decide) sourceFile
  have source_clean : Clean ("//  source: " ++ sourceFile) := by simp +decide [clean]
  simp only [bannerTexts, List.forall_mem_cons]
  exact ⟨words_quiet _ (by decide) (by decide), words_quiet _ (by decide) (by decide),
    ⟨source_quiet, isLine_of_clean source_clean⟩, words_quiet _ (by decide) (by decide),
    words_quiet _ (by decide) (by decide), by simp⟩

theorem writes_markingLines {texts : List String} (single : ∀ text ∈ texts, IsLine text) :
    Writes width 0 (markingLines context texts)
      (markingTexts context.settings.marksDeprecated texts) := by
  unfold markingLines markingTexts
  split
  · exact Page.writes_lines_outermost single
  · exact Page.writes_nil

/-- A statement that a protocol exists opens no block. -/
theorem quiet_protocolStatement (name : String) : Quiet ("@protocol " ++ (name ++ ";")) := by
  have ends : Text.endsWith ("@protocol " ++ (name ++ ";")) ";" = true := by
    rw [← String.append_assoc, Text.endsWith, List.isSuffixOf_iff_suffix, String.toList_append]
    exact List.suffix_append _ _
  refine ⟨⟨?_, ?_, ?_⟩, ?_⟩
  · rw [isOpener, ends, Bool.not_true, Bool.and_false, Bool.or_false]
    exact startsWith_append_eq_false _ (by decide) (by decide)
  · rw [isCloser, beq_eq_false_iff_ne]
    intro closer_eq
    simpa [endLine] using congrArg String.toList closer_eq
  · intro brace_eq
    simpa [closingBrace] using congrArg String.toList brace_eq
  · simp [isFrame, isGuardStart, isGuardEnd, isPragma, Text.startsWith, List.isPrefixOf]

/-- The steps between the settings of warnings. -/
def insideSteps (context : Context) (unit : SourceUnit) : List Step :=
  .newline :: (forwardLines (Dependencies.collect context.naming unit).forward
    ++ line SupportLibrary.importLine
    ++ lines (Ascending.texts
      ((Dependencies.collect context.naming unit).superTypes.map Import.includeStatement))
    ++ unit.declarations.flatMap (fun declaration =>
      .newline :: (declarationEmission context declaration).steps)
    ++ [.newline])

theorem unitEmission_steps_eq {unit : SourceUnit}
    (sound : ∀ declaration ∈ unit.declarations, (opening context declaration).fault = none) :
    (unitEmission context unit).steps =
      line (context.settings.bannerFor unit.sourceFile)
        ++ (line ("#ifndef " ++ guardName (context.naming.mainName unit))
          ++ (line ("#define " ++ guardName (context.naming.mainName unit))
            ++ (markingLines context [SupportLibrary.saveWarnings, SupportLibrary.allowDeprecated]
              ++ insideSteps context unit ++ markingLines context [SupportLibrary.restoreWarnings])
          ++ line ("#endif // " ++ guardName (context.naming.mainName unit)))) := by
  rw [unitEmission_steps_of_sound sound]
  simp [prologue, epilogue, insideSteps, lines]

section

variable {unit : SourceUnit} (clean : AllClean unit.words)

include clean

theorem writesQuiet_forwardLines (naming_clean : AllClean context.naming.words) :
    WritesQuiet width 0 (forwardLines (Dependencies.collect context.naming unit).forward) := by
  have entry_quiet : ∀ entry ∈ (Dependencies.collect context.naming unit).forward,
      WritesQuiet width 0 (line entry.forwardDeclaration) := by
    intro entry entry_mem
    have mentioned := ((Dependencies.mem_forward_iff context.naming unit entry).mp entry_mem).1
    have name_clean := clean_of_mentionedImport naming_clean clean mentioned
    have rest_single : IsLine (entry.typeName ++ ";") :=
      isLine_of_clean ((clean_append _ _).mpr ⟨name_clean, by decide⟩)
    unfold Import.forwardDeclaration
    rw [String.append_assoc]
    split
    · exact writesQuiet_line_outermost ((isLine_append _ _).mpr ⟨by simp [IsLine], rest_single⟩)
        (quiet_protocolStatement entry.typeName)
    · exact writesQuiet_start (by decide) (by simp [IsLine]) rest_single
  have texts_quiet : ∀ text ∈ Ascending.texts
      ((Dependencies.collect context.naming unit).forward.map Import.forwardDeclaration),
      WritesQuiet width 0 (line text) := by
    intro text text_mem
    obtain ⟨entry, entry_mem, rfl⟩ := List.mem_map.mp (Ascending.mem_ofList.mp text_mem)
    exact entry_quiet entry entry_mem
  unfold forwardLines
  split
  · exact writesQuiet_nil
  · exact (writesQuiet_lines texts_quiet).append writesQuiet_newline

theorem writesQuiet_includes :
    WritesQuiet width 0 (lines (Ascending.texts
      ((Dependencies.collect context.naming unit).superTypes.map Import.includeStatement))) := by
  apply writesQuiet_lines
  intro text text_mem
  obtain ⟨entry, entry_mem, rfl⟩ := List.mem_map.mp (Ascending.mem_ofList.mp text_mem)
  have extended := (Dependencies.mem_superTypes_iff context.naming unit entry).mp entry_mem
  have file_clean := clean_of_superTypeImport clean extended
  rw [Import.includeStatement, String.append_assoc]
  exact writesQuiet_start (by decide) (by simp [IsLine])
    (isLine_of_clean (by simp +decide [file_clean]))

/-- What stands between the settings of warnings: the dependencies and the declarations. -/
theorem writesBlocks_insideSteps (naming_clean : AllClean context.naming.words)
    (undocumented : unit.docs = [])
    (sound : ∀ declaration ∈ unit.declarations, (opening context declaration).fault = none) :
    WritesBlocks width unit.declarations.length (insideSteps context unit) := by
  have import_quiet : WritesQuiet width 0 (line SupportLibrary.importLine) :=
    writesQuiet_line_outermost (by simp [IsLine, SupportLibrary.importLine])
      ⟨⟨by decide, by decide, by decide⟩, by decide⟩
  have forward_quiet : WritesQuiet width 0
      (forwardLines (Dependencies.collect context.naming unit).forward) :=
    writesQuiet_forwardLines clean naming_clean
  have includes_quiet : WritesQuiet width 0 (lines (Ascending.texts
      ((Dependencies.collect context.naming unit).superTypes.map Import.includeStatement))) :=
    writesQuiet_includes clean
  have dependencies_quiet := (forward_quiet.append import_quiet).append includes_quiet
  have declarations_blocks : WritesBlocks width unit.declarations.length
      (unit.declarations.flatMap fun declaration =>
        .newline :: (declarationEmission context declaration).steps) := by
    apply writesBlocks_flatMap
    intro declaration declared
    have declaration_undocumented := List.flatMap_eq_nil_iff.mp undocumented declaration declared
    have declaration_blocks : WritesBlocks width 1 (declarationEmission context declaration).steps :=
      writesBlocks_declaration naming_clean (allClean_of_declared clean declared)
        declaration_undocumented (sound declaration declared)
    exact declaration_blocks.quiet_append writesQuiet_newline
  exact ((declarations_blocks.quiet_append dependencies_quiet).append_quiet
    writesQuiet_newline).quiet_append writesQuiet_newline

theorem split_generate (naming_clean : AllClean context.naming.words)
    (banner_eq : context.settings.banner = ({} : Settings).banner) (undocumented : unit.docs = [])
    {text : String} (generated : generate context unit = .ok text) :
    ∃ inside count, Text.split '\n' text =
        framed (guardName (context.naming.mainName unit)) context.settings.marksDeprecated
          (bannerTexts unit.sourceFile) inside ∧
      unit.declarations.length ≤ count ∧ Blocks count inside ∧
      ∀ text ∈ inside, isFrame text = false := by
  obtain ⟨sound, text_eq⟩ := (generate_eq_ok_iff context unit text).mp generated
  have inside_writes : WritesBlocks context.settings.indentWidth unit.declarations.length
      (insideSteps context unit) :=
    writesBlocks_insideSteps clean naming_clean undocumented sound
  obtain ⟨count, inside, least_le, inside_written, inside_blocks, frameless⟩ := inside_writes
  refine ⟨inside, count, ?_, least_le, inside_blocks, frameless⟩
  have main_clean := clean_mainName naming_clean clean
  have guard_clean : Clean (guardName (context.naming.mainName unit)) := by
    simp +decide [guardName, main_clean]
  have file_clean : Clean unit.sourceFile := by
    simp only [SourceUnit.words, allClean_cons] at clean
    exact clean.2.1
  have banner_written : Writes context.settings.indentWidth 0
      (line (context.settings.bannerFor unit.sourceFile)) (bannerTexts unit.sourceFile) :=
    Page.writes_text_outermost (fun text text_mem => (quiet_bannerTexts file_clean text text_mem).2)
      (bannerFor_ended banner_eq unit.sourceFile)
  have directive_written : ∀ start, IsLine start →
      Writes context.settings.indentWidth 0
        (line (start ++ guardName (context.naming.mainName unit)))
        [start ++ guardName (context.naming.mainName unit)] := fun start start_single =>
    Page.writes_line_outermost ((isLine_append _ _).mpr ⟨start_single, isLine_of_clean guard_clean⟩)
  have saved_written : Writes context.settings.indentWidth 0
      (markingLines context [SupportLibrary.saveWarnings, SupportLibrary.allowDeprecated]) _ :=
    writes_markingLines (by simp [IsLine, SupportLibrary.saveWarnings, SupportLibrary.allowDeprecated])
  have restored_written : Writes context.settings.indentWidth 0
      (markingLines context [SupportLibrary.restoreWarnings]) _ :=
    writes_markingLines (by simp [IsLine, SupportLibrary.restoreWarnings])
  have written := banner_written.append <| (directive_written "#ifndef " (by simp [IsLine])).append <|
    ((directive_written "#define " (by simp [IsLine])).append
      ((saved_written.append inside_written).append restored_written)).append
      (directive_written "#endif // " (by simp [IsLine]))
  rw [text_eq, unitEmission_steps_eq sound, written.split_render]
  simp [framed, guardedTexts]

/-- The header of a unit without comments is well bracketed under the default banner, if all words are
clean, and has a block for each declaration. -/
theorem generate_wellBracketed (naming_clean : AllClean context.naming.words)
    (banner_eq : context.settings.banner = ({} : Settings).banner) (undocumented : unit.docs = [])
    {text : String} (generated : generate context unit = .ok text) :
    WellBracketed (guardName (context.naming.mainName unit)) context.settings.marksDeprecated
      unit.declarations.length (Text.split '\n' text) := by
  obtain ⟨inside, count, split_eq, least_le, blocks, frameless⟩ :=
    split_generate clean naming_clean banner_eq undocumented generated
  have file_clean : Clean unit.sourceFile := by
    simp only [SourceUnit.words, allClean_cons] at clean
    exact clean.2.1
  rw [split_eq]
  exact wellBracketed_framed _ _ least_le
    (fun text text_mem => (quiet_bannerTexts file_clean text text_mem).1) blocks frameless

end

/-- An interface that extends another and needs setup code, a class with a variable and a method whose
body is written elsewhere, an enum, and an annotation type with a member. -/
def beaconUnit : SourceUnit :=
  let int := TypeRef.ofPrimitive .int
  let void := TypeRef.ofPrimitive .void
  { package := "harbor"
    sourceFile := "harbor/Beacon.java"
    declarations :=
      [.ofType
        { type := .declared "harbor" "Beacon" .interfaceType
          interfaces := [.declared "harbor" "Light" .interfaceType]
          methods :=
            [{ signature := { name := "flash", returnType := void } },
             { signature :=
                { name := "initialize", sort := .staticInitializer, returnType := void } }] },
       .ofType
        { type := .declared "harbor" "Buoy" .classType
          fields := [{ type := int, fragments := [{ name := "depth", type := int }] }]
          methods :=
            [{ signature :=
                { name := "sink", returnType := void, modifiers := { isNative := true } } }] },
       .ofEnum
        { type := .declared "harbor" "Side" .enumType
          constants := [.ofName "PORT" (.declared "harbor" "Side" .enumType)] },
       .ofAnnotationType
        { type := .declared "harbor" "Charted" .annotationType, retention := .runtime
          members := [{ name := "value", type := int }] }] }

theorem generate_wellBracketed_of_beacon :
    ∃ text, generate {} beaconUnit = .ok text ∧
      WellBracketed "_HarborBeacon_H_" true 4 (Text.split '\n' text) := by
  have sound : ∀ declaration ∈ beaconUnit.declarations,
      (opening {} declaration).fault = none := by decide
  have generated := (generate_eq_ok_iff {} beaconUnit _).mpr ⟨sound, rfl⟩
  have guard_eq : guardName (({} : Context).naming.mainName beaconUnit) = "_HarborBeacon_H_" := by
    decide +kernel
  have bracketed := generate_wellBracketed (by decide) (by decide) rfl (by decide) generated
  rw [guard_eq] at bracketed
  exact ⟨_, generated, bracketed⟩

end Header

end HeaderForge
