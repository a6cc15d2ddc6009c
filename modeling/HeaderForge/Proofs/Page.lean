import HeaderForge.Page
import Mathlib.Tactic.SplitIfs

/-!
# Laws of pages

Steps only append to a page, and what they append does not depend on the text before them. Settled
steps end where a line begins and at the level they began at, so that the steps after them write what
they would write on an empty page.
-/

namespace HeaderForge.Page

/-! ## Spaces -/

@[simp] theorem spaces_outermost (indentWidth : Nat) : spaces 0 indentWidth = 0 := by
  rw [spaces, Nat.zero_mul, Nat.zero_mod]

@[simp] theorem run_nil (page : Page) : page.run [] = page := rfl

@[simp] theorem run_cons (page : Page) (step : Step) (steps : List Step) :
    page.run (step :: steps) = (page.take step).run steps := rfl

theorem run_append (page : Page) (first second : List Step) :
    page.run (first ++ second) = (page.run first).run second :=
  List.foldl_append

@[simp] theorem take_newline (page : Page) : page.take .newline = page.newline := rfl

@[simp] theorem take_write (page : Page) (text : String) :
    page.take (.write text) = page.write text := rfl

@[simp] theorem newline_text (page : Page) : page.newline.text = page.text.push '\n' := rfl

@[simp] theorem put_level (page : Page) (c : Char) : (page.put c).level = page.level := by
  unfold put newline
  split_ifs <;> rfl

@[simp] theorem put_indentWidth (page : Page) (c : Char) :
    (page.put c).indentWidth = page.indentWidth := by
  unfold put newline
  split_ifs <;> rfl

theorem foldl_put_level (page : Page) (chars : List Char) :
    (chars.foldl put page).level = page.level := by
  induction chars generalizing page with
  | nil => rfl
  | cons c chars ih => rw [List.foldl_cons, ih, put_level]

theorem foldl_put_indentWidth (page : Page) (chars : List Char) :
    (chars.foldl put page).indentWidth = page.indentWidth := by
  induction chars generalizing page with
  | nil => rfl
  | cons c chars ih => rw [List.foldl_cons, ih, put_indentWidth]

@[simp] theorem write_level (page : Page) (text : String) :
    (page.write text).level = page.level :=
  foldl_put_level page text.toList

@[simp] theorem write_indentWidth (page : Page) (text : String) :
    (page.write text).indentWidth = page.indentWidth :=
  foldl_put_indentWidth page text.toList

@[simp] theorem take_indentWidth (page : Page) (step : Step) :
    (page.take step).indentWidth = page.indentWidth := by
  cases step with
  | write text => exact write_indentWidth page text
  | newline => rfl
  | indent => rfl
  | dedent => rfl

@[simp] theorem run_indentWidth (page : Page) (steps : List Step) :
    (page.run steps).indentWidth = page.indentWidth := by
  induction steps generalizing page with
  | nil => rfl
  | cons step steps ih => rw [run_cons, ih, take_indentWidth]

/-! ## The text before -/

/-- The page with a text before its own. -/
def after (page : Page) (before : String) : Page := { page with text := before ++ page.text }

theorem append_push (before text : String) (c : Char) :
    (before ++ text).push c = before ++ text.push c := by
  rw [String.push_eq_append, String.push_eq_append, String.append_assoc]

theorem newline_after (page : Page) (before : String) :
    (page.after before).newline = page.newline.after before := by
  simp [newline, after, append_push]

theorem put_after (page : Page) (before : String) (c : Char) :
    (page.after before).put c = (page.put c).after before := by
  by_cases feed : c = '\n'
  · simp only [put, feed, if_true]
    exact newline_after page before
  · cases page with
    | mk indentWidth text level atLineStart =>
        cases atLineStart <;>
          simp [put, feed, after, indentation, append_push, String.append_assoc]

theorem write_after (page : Page) (before text : String) :
    (page.after before).write text = (page.write text).after before := by
  unfold write
  induction text.toList generalizing page with
  | nil => rfl
  | cons c chars ih => rw [List.foldl_cons, List.foldl_cons, put_after, ih]

theorem take_after (page : Page) (before : String) (step : Step) :
    (page.after before).take step = (page.take step).after before := by
  cases step with
  | write text => exact write_after page before text
  | newline => exact newline_after page before
  | indent => rfl
  | dedent => rfl

/-- Steps neither read nor change the text before them. -/
theorem run_after (page : Page) (before : String) (steps : List Step) :
    (page.after before).run steps = (page.run steps).after before := by
  induction steps generalizing page with
  | nil => rfl
  | cons step steps ih => rw [run_cons, run_cons, take_after, ih]

/-- Steps append a text that depends on the level and on whether a line begins, but on no text. -/
theorem run_text (page : Page) (steps : List Step) :
    (page.run steps).text = page.text ++ (({ page with text := "" } : Page).run steps).text := by
  have page_eq : page = ({ page with text := "" } : Page).after page.text := by
    simp [after]
  have moved := run_after { page with text := "" } page.text steps
  rw [← page_eq] at moved
  rw [moved]
  rfl

/-- Where an outermost line begins, steps append what they write on an empty page. -/
theorem run_text_of_outermost {page : Page} (atStart : page.atLineStart = true)
    (outermost : page.level = 0) (steps : List Step) :
    (page.run steps).text = page.text ++ render page.indentWidth steps := by
  have emptied : ({ page with text := "" } : Page) = { indentWidth := page.indentWidth } := by
    rw [← atStart, ← outermost]
  rw [run_text, emptied, render]

/-! ## Settled steps -/

/-- Steps that leave the level of indentation as it was. -/
def KeepsLevel (steps : List Step) : Prop :=
  ∀ page : Page, (page.run steps).level = page.level

/-- Steps that leave the level as it was, and end where a line begins if they began there. -/
structure Settled (steps : List Step) : Prop where
  /-- The level is left as it was. -/
  keepsLevel : KeepsLevel steps
  /-- Where a line began, a line begins afterwards. -/
  keepsLineStart : ∀ page : Page, page.atLineStart = true → (page.run steps).atLineStart = true

/-- Steps that leave the level as it was, and end where a line begins wherever they began. -/
structure Closing (steps : List Step) : Prop where
  /-- The level is left as it was. -/
  keepsLevel : KeepsLevel steps
  /-- A line begins afterwards. -/
  endsLine : ∀ page : Page, (page.run steps).atLineStart = true

theorem KeepsLevel.append {first second : List Step} (first_keeps : KeepsLevel first)
    (second_keeps : KeepsLevel second) : KeepsLevel (first ++ second) := by
  intro page
  rw [run_append, second_keeps, first_keeps]

theorem keepsLevel_write (text : String) : KeepsLevel [.write text] :=
  fun page => write_level page text

theorem Closing.settled {steps : List Step} (closing : Closing steps) : Settled steps :=
  ⟨closing.keepsLevel, fun page _ => closing.endsLine page⟩

theorem KeepsLevel.append_closing {first second : List Step} (first_keeps : KeepsLevel first)
    (second_closing : Closing second) : Closing (first ++ second) := by
  refine ⟨first_keeps.append second_closing.keepsLevel, fun page => ?_⟩
  rw [run_append]
  exact second_closing.endsLine (page.run first)

theorem Closing.append_settled {first second : List Step} (first_closing : Closing first)
    (second_settled : Settled second) : Closing (first ++ second) := by
  refine ⟨first_closing.keepsLevel.append second_settled.keepsLevel, fun page => ?_⟩
  rw [run_append]
  exact second_settled.keepsLineStart _ (first_closing.endsLine page)

theorem settled_nil : Settled [] := ⟨fun _ => rfl, fun _ atStart => atStart⟩

theorem Settled.append {first second : List Step} (first_settled : Settled first)
    (second_settled : Settled second) : Settled (first ++ second) := by
  refine ⟨first_settled.keepsLevel.append second_settled.keepsLevel, fun page atStart => ?_⟩
  rw [run_append]
  exact second_settled.keepsLineStart _ (first_settled.keepsLineStart page atStart)

theorem closing_newline : Closing [.newline] := ⟨fun _ => rfl, fun _ => rfl⟩

theorem closing_line (text : String) : Closing (line text) :=
  (keepsLevel_write text).append_closing closing_newline

theorem Settled.newline_cons {steps : List Step} (settled : Settled steps) :
    Closing (.newline :: steps) :=
  closing_newline.append_settled settled

theorem settled_flatMap {values : List α} {write : α → List Step}
    (settled : ∀ value ∈ values, Settled (write value)) : Settled (values.flatMap write) := by
  induction values with
  | nil => exact settled_nil
  | cons value rest ih =>
      rw [List.flatMap_cons]
      exact (settled value List.mem_cons_self).append
        (ih fun other other_mem => settled other (List.mem_cons_of_mem value other_mem))

theorem settled_lines (texts : List String) : Settled (lines texts) :=
  settled_flatMap fun text _ => (closing_line text).settled

theorem settled_ite {condition : Prop} [Decidable condition] {first second : List Step}
    (first_settled : Settled first) (second_settled : Settled second) :
    Settled (if condition then first else second) := by
  split
  · exact first_settled
  · exact second_settled

/-- An indented block comes back to the level it was begun at. -/
theorem Settled.indented {steps : List Step} (settled : Settled steps) :
    Settled (indented steps) := by
  have run_eq (page : Page) : page.run (Page.indented steps) =
      { ({ page with level := page.level + 1 } : Page).run steps with
        level := (({ page with level := page.level + 1 } : Page).run steps).level - 1 } := by
    simp only [Page.indented, List.cons_append, run_cons, run_append, run_nil, take]
  constructor
  · intro page
    rw [run_eq, settled.keepsLevel]
    rfl
  · intro page atStart
    rw [run_eq]
    exact settled.keepsLineStart _ atStart

/-- Steps after settled steps write what they write on an empty page. -/
theorem Settled.render_append {first : List Step} (settled : Settled first) (indentWidth : Nat)
    (second : List Step) :
    render indentWidth (first ++ second) =
      render indentWidth first ++ render indentWidth second := by
  have atStart : (({ indentWidth } : Page).run first).atLineStart = true :=
    settled.keepsLineStart _ rfl
  have outermost : (({ indentWidth } : Page).run first).level = 0 := settled.keepsLevel _
  rw [render, run_append, run_text_of_outermost atStart outermost, run_indentWidth]
  rfl

/-- Settled steps lead from the beginning of an outermost line to the beginning of another. -/
theorem Settled.run_outermost {steps : List Step} (settled : Settled steps)
    (indentWidth : Nat) (before : String) :
    run ⟨indentWidth, before, 0, true⟩ steps =
      ⟨indentWidth, before ++ render indentWidth steps, 0, true⟩ := by
  have indentWidth_eq := run_indentWidth ⟨indentWidth, before, 0, true⟩ steps
  have text_eq := @run_text_of_outermost ⟨indentWidth, before, 0, true⟩ rfl rfl steps
  have level_eq := settled.keepsLevel ⟨indentWidth, before, 0, true⟩
  have atStart := settled.keepsLineStart ⟨indentWidth, before, 0, true⟩ rfl
  cases page_eq : run ⟨indentWidth, before, 0, true⟩ steps with
  | mk finalWidth finalText finalLevel finalStart =>
      rw [page_eq] at indentWidth_eq text_eq level_eq atStart
      exact congr (congr (congr (congrArg Page.mk indentWidth_eq) text_eq) level_eq) atStart

theorem render_flatMap {values : List α} {write : α → List Step}
    (settled : ∀ value ∈ values, Settled (write value)) (indentWidth : Nat) :
    render indentWidth (values.flatMap write) =
      String.join (values.map fun value => render indentWidth (write value)) := by
  induction values with
  | nil => rfl
  | cons value rest ih =>
      rw [List.flatMap_cons, (settled value List.mem_cons_self).render_append, List.map_cons,
        String.join_cons, ih fun other other_mem => settled other (List.mem_cons_of_mem _ other_mem)]

/-! ## Outermost lines -/

theorem put_text_of_outermost {page : Page} (outermost : page.level = 0) (c : Char) :
    (page.put c).text = page.text.push c := by
  unfold put
  split_ifs with feed atStart
  · rw [feed, newline_text]
  · simp [indentation, outermost]
  · rfl

theorem foldl_put_text_of_outermost {page : Page} (outermost : page.level = 0)
    (chars : List Char) : (chars.foldl put page).text = page.text ++ String.ofList chars := by
  induction chars generalizing page with
  | nil => simp
  | cons c chars ih =>
      rw [List.foldl_cons, ih ((put_level page c).trans outermost),
        put_text_of_outermost outermost]
      apply String.toList_inj.mp
      simp

/-- At the outermost level a text is written as it is. -/
theorem write_text_of_outermost {page : Page} (outermost : page.level = 0) (text : String) :
    (page.write text).text = page.text ++ text := by
  rw [write, foldl_put_text_of_outermost outermost, String.ofList_toList]

theorem render_line (indentWidth : Nat) (text : String) :
    render indentWidth (line text) = text ++ "\n" := by
  have written : (({ indentWidth } : Page).write text).text = "" ++ text :=
    write_text_of_outermost rfl text
  rw [render, line, run_cons, take_write, run_cons, take_newline, run_nil, newline_text, written]
  apply String.toList_inj.mp
  simp

end HeaderForge.Page
