import HeaderForge.Proofs.Page
import HeaderForge.Text.Words

/-!
# Steps as lines

Steps that begin where a line begins and end where one begins write whole lines. Which lines these are
depends only on the level of indentation.
-/

namespace HeaderForge.Page

/-- The text holds no line feed. -/
def IsLine (text : String) : Prop := '\n' ∉ text.toList

/-- Lines, each ended by a line feed. -/
def ended (lines : List String) : String := String.join (lines.map (· ++ "\n"))

@[simp] theorem ended_nil : ended [] = "" := rfl

@[simp] theorem ended_cons (line : String) (rest : List String) :
    ended (line :: rest) = line ++ "\n" ++ ended rest := by
  simp [ended, String.join_cons]

theorem ended_append (first second : List String) :
    ended (first ++ second) = ended first ++ ended second := by
  induction first with
  | nil => simp
  | cons line rest ih => simp only [List.cons_append, ended_cons, ih, String.append_assoc]

/-- The lines of ended lines, and the empty one after the last line feed. -/
theorem split_ended {lines : List String} (single : ∀ line ∈ lines, IsLine line) :
    Text.split '\n' (ended lines) = lines ++ [""] := by
  induction lines with
  | nil => simp [Text.split]
  | cons line rest ih =>
      rw [List.forall_mem_cons] at single
      have rest_split := ih single.2
      have chars_eq : (ended (line :: rest)).toList = line.toList ++ '\n' :: (ended rest).toList := by
        simp
      rw [Text.split, chars_eq, List.splitOn_append_cons_self_of_not_mem single.1, List.map_cons,
        ← Text.split, rest_split, String.ofList_toList]
      rfl

/-- At a level, the steps write the lines, each of which is one line. -/
structure Writes (width level : Nat) (steps : List Step) (lines : List String) : Prop where
  single : ∀ line ∈ lines, IsLine line
  run_eq : ∀ before : String,
    run ⟨width, before, level, true⟩ steps = ⟨width, before ++ ended lines, level, true⟩

variable {width level : Nat}

theorem writes_nil : Writes width level [] [] :=
  ⟨by simp, fun before => by simp⟩

theorem Writes.append {first second : List Step} {above below : List String}
    (first_writes : Writes width level first above) (second_writes : Writes width level second below) :
    Writes width level (first ++ second) (above ++ below) := by
  constructor
  · exact List.forall_mem_append.mpr ⟨first_writes.single, second_writes.single⟩
  · intro before
    rw [run_append, first_writes.run_eq, second_writes.run_eq, ended_append, String.append_assoc]

/-- The text that steps write on an empty page. -/
theorem Writes.render_eq {steps : List Step} {texts : List String}
    (writes : Writes width 0 steps texts) : Page.render width steps = ended texts := by
  have run_eq := writes.run_eq ""
  rw [String.empty_append] at run_eq
  exact congrArg Page.text run_eq

/-- The lines of the text that steps write on an empty page. -/
theorem Writes.split_render {steps : List Step} {texts : List String}
    (writes : Writes width 0 steps texts) :
    Text.split '\n' (Page.render width steps) = texts ++ [""] := by
  rw [writes.render_eq, split_ended writes.single]

theorem writes_newline : Writes width level [.newline] [""] := by
  constructor
  · simp [IsLine]
  · intro before
    simp [newline, String.push_eq_append]

/-! ## Lines of text -/

/-- A line as it stands after a number of spaces; an empty line has none. -/
def indentedLine (spaces : Nat) (text : String) : String :=
  if text = "" then "" else String.ofList (List.replicate spaces ' ') ++ text

@[simp] theorem indentedLine_zero (text : String) : indentedLine 0 text = text := by
  unfold indentedLine
  split
  · next empty => exact empty.symm
  · simp

theorem foldl_put_of_isLine {chars : List Char} (single : '\n' ∉ chars) (before : String) :
    chars.foldl put ⟨width, before, level, false⟩ =
      ⟨width, before ++ String.ofList chars, level, false⟩ := by
  induction chars generalizing before with
  | nil => simp
  | cons c chars ih =>
      rw [List.mem_cons, not_or] at single
      have not_feed : c ≠ '\n' := fun feed => single.1 feed.symm
      have put_eq : put ⟨width, before, level, false⟩ c = ⟨width, before.push c, level, false⟩ := by
        simp [put, not_feed]
      rw [List.foldl_cons, put_eq, ih single.2]
      congr 1
      apply String.toList_inj.mp
      simp

/-- A text without line feeds is written behind the indentation of its line. -/
theorem write_of_isLine {text : String} (single : IsLine text) (nonempty : text ≠ "")
    (before : String) :
    write ⟨width, before, level, true⟩ text =
      ⟨width, before ++ indentedLine (spaces level width) text, level, false⟩ := by
  unfold IsLine at single
  have chars_nonempty : text.toList ≠ [] := by simpa using nonempty
  rw [indentedLine, if_neg nonempty, write]
  cases chars_eq : text.toList with
  | nil => exact absurd chars_eq chars_nonempty
  | cons c chars =>
      rw [chars_eq, List.mem_cons, not_or] at single
      have not_feed : c ≠ '\n' := fun feed => single.1 feed.symm
      have put_eq : put ⟨width, before, level, true⟩ c =
          ⟨width, (before ++ String.ofList (List.replicate (spaces level width) ' ')).push c, level,
            false⟩ := by
        simp [put, not_feed, indentation]
      rw [List.foldl_cons, put_eq, foldl_put_of_isLine single.2]
      congr 1
      apply String.toList_inj.mp
      simp [chars_eq]

theorem writes_line {text : String} (single : IsLine text) :
    Writes width level (line text) [indentedLine (spaces level width) text] := by
  constructor
  · have spaces_single : ∀ count, '\n' ∉ List.replicate count ' ' := by
      intro count
      simp [List.mem_replicate]
    rw [List.forall_mem_singleton, indentedLine]
    split
    · simp [IsLine]
    · simpa [IsLine, spaces_single] using single
  · intro before
    by_cases empty : text = ""
    · subst empty
      simp [line, write, newline, indentedLine, String.push_eq_append]
    · simp [line, write_of_isLine single empty, newline, String.push_eq_append, String.append_assoc]

theorem writes_line_outermost {text : String} (single : IsLine text) :
    Writes width 0 (line text) [text] := by
  have written : Writes width 0 (line text) [indentedLine (spaces 0 width) text] := writes_line single
  simpa using written

theorem writes_lines_outermost {texts : List String} (single : ∀ text ∈ texts, IsLine text) :
    Writes width 0 (lines texts) texts := by
  induction texts with
  | nil => exact writes_nil
  | cons text rest ih =>
      rw [List.forall_mem_cons] at single
      exact (writes_line_outermost single.1).append (ih single.2)

/-- Outermost, texts are written as they are, also if they hold line feeds. -/
theorem render_lines (indentWidth : Nat) (texts : List String) :
    render indentWidth (lines texts) = ended texts := by
  induction texts with
  | nil => rfl
  | cons text rest ih =>
      rw [lines, List.flatMap_cons, (closing_line text).settled.render_append, render_line,
        ended_cons, ← ih, lines]

/-- A text written in two parts is written whole. -/
theorem write_append (page : Page) (first second : String) :
    page.write (first ++ second) = (page.write first).write second := by
  rw [write, write, write, String.toList_append, List.foldl_append]

/-- Outermost, a text of several lines is written as it is. -/
theorem writes_text_outermost {text : String} {lines : List String}
    (single : ∀ line ∈ lines, IsLine line) (text_eq : text ++ "\n" = ended lines) :
    Writes width 0 (line text) lines := by
  refine ⟨single, fun before => ?_⟩
  have written : (write ⟨width, before, 0, true⟩ text).text = before ++ text :=
    write_text_of_outermost rfl text
  have level_eq := write_level ⟨width, before, 0, true⟩ text
  have width_eq := write_indentWidth ⟨width, before, 0, true⟩ text
  rw [line, run_cons, take_write, run_cons, take_newline, run_nil, newline, written, level_eq,
    width_eq, String.push_eq_append, String.append_assoc]
  exact congrArg (fun appended => Page.mk width (before ++ appended) 0 true) text_eq

theorem Writes.indented {steps : List Step} {lines : List String}
    (writes : Writes width (level + 1) steps lines) :
    Writes width level (indented steps) lines := by
  refine ⟨writes.single, fun before => ?_⟩
  simp only [Page.indented, List.cons_append, run_cons, run_append, run_nil, take, writes.run_eq]
  rfl

end HeaderForge.Page
