import HeaderForge.Proofs.Brackets.Lines
import HeaderForge.Proofs.Splitting

/-!
# Comments woven into lines

Lines with comments arise from lines without any by setting each comment right above the lines it
belongs to. The relation is first stated for lines, and then for steps of writing. Steps written in turn
are woven in turn, so that a page is taken apart at its comments and nothing else on it matters.
-/

namespace HeaderForge.Page

/-! ## Lines -/

/-- A place for a comment. -/
structure Site where
  /-- The lines of the comment. -/
  comment : List String
  /-- The lines right below, which the comment belongs to. -/
  commented : List String
deriving DecidableEq, Repr

/-- With the comments of the sites, in order, each right above the lines it belongs to, the second lines
become the first. -/
inductive Woven : List Site → List String → List String → Prop
  | done : Woven [] [] []
  | line (text : String) {sites : List Site} {full plain : List String} :
      Woven sites full plain → Woven sites (text :: full) (text :: plain)
  | site (site : Site) {sites : List Site} {full plain : List String} :
      Woven sites full plain →
      Woven (site :: sites) (site.comment ++ site.commented ++ full) (site.commented ++ plain)

namespace Woven

variable {sites more : List Site} {full plain moreFull morePlain : List String}

theorem lines (texts : List String) : Woven [] texts texts := by
  induction texts with
  | nil => exact .done
  | cons text rest ih => exact ih.line text

theorem append (first : Woven sites full plain) (second : Woven more moreFull morePlain) :
    Woven (sites ++ more) (full ++ moreFull) (plain ++ morePlain) := by
  induction first with
  | done => exact second
  | line text _ ih => exact ih.line text
  | site site _ ih => simpa only [List.cons_append, List.append_assoc] using ih.site site

/-- Comments take no line away. -/
theorem sublist (woven : Woven sites full plain) : plain.Sublist full := by
  induction woven with
  | done => exact List.Sublist.refl []
  | line text _ ih => exact ih.cons_cons text
  | site site _ ih =>
      exact (List.sublist_append_right site.comment site.commented).append ih

/-- Apart from their order, the lines are those without comments and those of the comments. -/
theorem perm (woven : Woven sites full plain) :
    full.Perm (plain ++ sites.flatMap Site.comment) := by
  induction woven with
  | done => exact List.Perm.refl []
  | line text _ ih => exact ih.cons text
  | @site site sites full plain _ ih =>
      have below : (full ++ site.comment).Perm (plain ++ (site :: sites).flatMap Site.comment) := by
        refine (ih.append_right site.comment).trans ?_
        rw [List.append_assoc, List.flatMap_cons]
        exact List.perm_append_comm.append_left plain
      have moved : (site.comment ++ site.commented ++ full).Perm
          (site.commented ++ (full ++ site.comment)) := by
        rw [List.append_assoc, ← List.append_assoc site.commented]
        exact List.perm_append_comm
      rw [List.append_assoc site.commented plain]
      exact moved.trans (below.append_left site.commented)

end Woven

/-! ## Texts of several lines -/

variable {width level : Nat}

theorem ended_split (text : String) : ended (Text.split '\n' text) = text ++ "\n" := by
  have ended_eq : ∀ {texts : List String}, texts ≠ [] →
      ended texts = "\n".intercalate texts ++ "\n" := by
    intro texts nonempty
    induction texts with
    | nil => exact absurd rfl nonempty
    | cons first rest ih =>
        by_cases rest_nil : rest = []
        · simp [rest_nil]
        · rw [ended_cons, ih rest_nil, String.intercalate_cons_of_ne_nil rest_nil]
          simp only [String.append_assoc]
  rw [ended_eq (Text.split_ne_nil '\n' text)]
  exact congrArg (· ++ "\n") (Text.intercalate_split '\n' text)

theorem isLine_of_mem_split {text part : String} (part_mem : part ∈ Text.split '\n' text) :
    IsLine part :=
  Text.not_mem_of_mem_split part_mem

/-- A line feed in a text ends the line as the end of a line does. -/
theorem run_line_feed (page : Page) (first second : String) :
    page.run (line (first ++ "\n" ++ second)) = page.run (line first ++ line second) := by
  have feed (page : Page) : page.write "\n" = page.newline := by
    simp [write, put]
  simp only [line, List.cons_append, List.nil_append, run_cons, run_nil, take_write, take_newline,
    write_append, feed]

theorem writes_joined {texts : List String} (nonempty : texts ≠ [])
    (single : ∀ text ∈ texts, IsLine text) :
    Writes width level (line ("\n".intercalate texts))
      (texts.map (indentedLine (spaces level width))) := by
  induction texts with
  | nil => exact absurd rfl nonempty
  | cons first rest ih =>
      rw [List.forall_mem_cons] at single
      by_cases rest_nil : rest = []
      · simpa [rest_nil] using writes_line single.1
      · have first_writes : Writes width level (line first) _ := writes_line single.1
        have both := first_writes.append (ih rest_nil single.2)
        refine ⟨both.single, fun before => ?_⟩
        rw [String.intercalate_cons_of_ne_nil rest_nil, run_line_feed]
        exact both.run_eq before

/-- A text is written line by line, each behind its indentation. -/
theorem writes_text (text : String) :
    Writes width level (line text)
      ((Text.split '\n' text).map (indentedLine (spaces level width))) := by
  have joined : Writes width level (line ("\n".intercalate (Text.split '\n' text))) _ :=
    writes_joined (Text.split_ne_nil '\n' text) fun part part_mem => isLine_of_mem_split part_mem
  have text_eq : "\n".intercalate (Text.split '\n' text) = text := Text.intercalate_split '\n' text
  rwa [text_eq] at joined

theorem writes_texts (texts : List String) :
    Writes width level (Page.lines texts)
      ((texts.flatMap (Text.split '\n')).map (indentedLine (spaces level width))) := by
  induction texts with
  | nil => exact writes_nil
  | cons text rest ih =>
      rw [List.flatMap_cons, List.map_append]
      exact (writes_text text).append ih

/-! ## Settled steps -/

/-- Where a line begins, the text before is made of whole lines. -/
def Whole (page : Page) : Prop :=
  page.atLineStart = true → ∃ texts, (∀ text ∈ texts, IsLine text) ∧ page.text = ended texts

theorem whole_newline (page : Page) : page.newline.Whole := by
  intro _
  refine ⟨Text.split '\n' page.text, fun part part_mem => isLine_of_mem_split part_mem, ?_⟩
  rw [newline_text, ended_split, String.push_eq_append]
  rfl

theorem whole_put (page : Page) (c : Char) : (page.put c).Whole := by
  unfold put
  split
  · exact whole_newline page
  · split
    · nofun
    · exact fun atStart => absurd atStart ‹_›

theorem whole_write {page : Page} (whole : page.Whole) (text : String) : (page.write text).Whole := by
  unfold write
  induction text.toList generalizing page with
  | nil => exact whole
  | cons c chars ih => exact ih (whole_put page c)

theorem whole_run {page : Page} (whole : page.Whole) (steps : List Step) : (page.run steps).Whole := by
  induction steps generalizing page with
  | nil => exact whole
  | cons step steps ih =>
      cases step with
      | write text => exact ih (whole_write whole text)
      | newline => exact ih (whole_newline page)
      | indent => exact ih whole
      | dedent => exact ih whole

/-- Settled steps write whole lines. -/
theorem Settled.exists_writes {steps : List Step} (settled : Settled steps) (width : Nat) :
    ∃ texts, Writes width 0 steps texts := by
  have empty_whole : ({ indentWidth := width } : Page).Whole := fun _ => ⟨[], by simp, rfl⟩
  obtain ⟨texts, single, text_eq⟩ :=
    whole_run empty_whole steps (settled.keepsLineStart _ rfl)
  refine ⟨texts, single, fun before => ?_⟩
  rw [settled.run_outermost width before, ← text_eq]
  rfl

/-! ## Steps -/

/-- At a level, the two lists of steps write lines that differ by the comments of the sites. -/
def Weaves (width level : Nat) (sites : List Site) (full plain : List Step) : Prop :=
  ∃ fullLines plainLines, Writes width level full fullLines ∧ Writes width level plain plainLines ∧
    Woven sites fullLines plainLines

theorem Writes.weaves {steps : List Step} {texts : List String}
    (writes : Writes width level steps texts) : Weaves width level [] steps steps :=
  ⟨texts, texts, writes, writes, .lines texts⟩

theorem Settled.weaves {steps : List Step} (settled : Settled steps) (width : Nat) :
    Weaves width 0 [] steps steps := by
  obtain ⟨texts, writes⟩ := settled.exists_writes width
  exact writes.weaves

namespace Weaves

variable {sites more : List Site} {full plain moreFull morePlain : List Step}

theorem append (first : Weaves width level sites full plain)
    (second : Weaves width level more moreFull morePlain) :
    Weaves width level (sites ++ more) (full ++ moreFull) (plain ++ morePlain) := by
  obtain ⟨fullLines, plainLines, full_writes, plain_writes, woven⟩ := first
  obtain ⟨moreFullLines, morePlainLines, more_full_writes, more_plain_writes, more_woven⟩ := second
  exact ⟨fullLines ++ moreFullLines, plainLines ++ morePlainLines,
    full_writes.append more_full_writes, plain_writes.append more_plain_writes,
    woven.append more_woven⟩

/-- Lines that are the same on both pages may stand above. -/
theorem above {same : List Step} (first : Weaves width level [] same same)
    (second : Weaves width level more moreFull morePlain) :
    Weaves width level more (same ++ moreFull) (same ++ morePlain) :=
  first.append second

/-- Lines that are the same on both pages may stand below. -/
theorem below {same : List Step} (first : Weaves width level sites full plain)
    (second : Weaves width level [] same same) :
    Weaves width level sites (full ++ same) (plain ++ same) := by
  simpa using first.append second

theorem indented (weaves : Weaves width (level + 1) sites full plain) :
    Weaves width level sites (Page.indented full) (Page.indented plain) := by
  obtain ⟨fullLines, plainLines, full_writes, plain_writes, woven⟩ := weaves
  exact ⟨fullLines, plainLines, full_writes.indented, plain_writes.indented, woven⟩

theorem flatMap {values : List α} {sitesOf : α → List Site} {fullOf plainOf : α → List Step}
    (each : ∀ value ∈ values, Weaves width level (sitesOf value) (fullOf value) (plainOf value)) :
    Weaves width level (values.flatMap sitesOf) (values.flatMap fullOf) (values.flatMap plainOf) := by
  induction values with
  | nil => exact writes_nil.weaves
  | cons value rest ih =>
      rw [List.forall_mem_cons] at each
      exact each.1.append (ih each.2)

/-- The lines of the texts written on empty pages are woven together. -/
theorem split_render (weaves : Weaves width 0 sites full plain) :
    Woven sites (Text.split '\n' (render width full)) (Text.split '\n' (render width plain)) := by
  obtain ⟨fullLines, plainLines, full_writes, plain_writes, woven⟩ := weaves
  rw [full_writes.split_render, plain_writes.split_render]
  simpa using woven.append (.lines [""])

end Weaves

end HeaderForge.Page
