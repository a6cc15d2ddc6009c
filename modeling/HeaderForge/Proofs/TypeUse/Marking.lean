import HeaderForge.Page

/-!
# Marked texts

A text does not show which of its words name types. A marked text does: it is a list of pieces, some of
them marked as the names of types that the text uses. Erasing the marks gives the text back.
-/

namespace HeaderForge

/-- A piece of a text. -/
inductive Piece where
  /-- Characters that use no type. -/
  | plain (text : String)
  /-- The name of a type that is used. -/
  | typeName (name : String)
deriving DecidableEq, Repr

namespace Piece

/-- The characters of a piece. -/
def text : Piece → String
  | plain text => text
  | typeName name => name

/-- The type that a piece names. -/
def name? : Piece → Option String
  | plain _ => none
  | typeName name => some name

/-- The text of pieces. -/
def textOf (pieces : List Piece) : String := String.join (pieces.map text)

/-- The types that pieces name. -/
def namesOf (pieces : List Piece) : List String := pieces.filterMap name?

/-- Pieces of several texts, with a separator between each two. -/
def separated (separator : String) (parts : List (List Piece)) : List Piece :=
  [plain separator].intercalate parts

@[simp] theorem textOf_nil : textOf [] = "" := rfl

@[simp] theorem textOf_cons (piece : Piece) (pieces : List Piece) :
    textOf (piece :: pieces) = piece.text ++ textOf pieces :=
  String.join_cons

@[simp] theorem text_plain (text : String) : (plain text).text = text := rfl

@[simp] theorem text_typeName (name : String) : (typeName name).text = name := rfl

@[simp] theorem textOf_append (first second : List Piece) :
    textOf (first ++ second) = textOf first ++ textOf second := by
  rw [textOf, List.map_append, String.join_append]
  rfl

@[simp] theorem namesOf_nil : namesOf [] = [] := rfl

@[simp] theorem namesOf_plain_cons (text : String) (pieces : List Piece) :
    namesOf (plain text :: pieces) = namesOf pieces := rfl

@[simp] theorem namesOf_typeName_cons (name : String) (pieces : List Piece) :
    namesOf (typeName name :: pieces) = name :: namesOf pieces := rfl

theorem namesOf_cons (piece : Piece) (pieces : List Piece) :
    namesOf (piece :: pieces) = piece.name?.toList ++ namesOf pieces := by
  cases piece <;> rfl

@[simp] theorem namesOf_append (first second : List Piece) :
    namesOf (first ++ second) = namesOf first ++ namesOf second :=
  List.filterMap_append

theorem separated_cons_cons (separator : String) (first second : List Piece)
    (rest : List (List Piece)) :
    separated separator (first :: second :: rest) =
      first ++ plain separator :: separated separator (second :: rest) := by
  simp [separated, List.intercalate_cons_cons]

@[simp] theorem textOf_separated (separator : String) (parts : List (List Piece)) :
    textOf (separated separator parts) = separator.intercalate (parts.map textOf) := by
  induction parts with
  | nil => rfl
  | cons first rest ih =>
      cases rest with
      | nil => simp [separated]
      | cons second rest =>
          rw [separated_cons_cons, textOf_append, textOf_cons, ih]
          simp [String.intercalate_cons_cons, String.append_assoc]

/-- A separator names no type. -/
@[simp] theorem namesOf_separated (separator : String) (parts : List (List Piece)) :
    namesOf (separated separator parts) = parts.flatMap namesOf := by
  induction parts with
  | nil => rfl
  | cons first rest ih =>
      cases rest with
      | nil => simp [separated]
      | cons second rest =>
          rw [separated_cons_cons, namesOf_append, namesOf_plain_cons, ih]
          rfl

theorem flatMap_namesOf_singletons (pieces : List Piece) :
    (pieces.map fun piece => [piece]).flatMap namesOf = namesOf pieces := by
  induction pieces with
  | nil => rfl
  | cons piece rest ih =>
      rw [List.map_cons, List.flatMap_cons, ih, namesOf_cons piece rest, namesOf_cons piece []]
      simp

end Piece

/-- A step of writing in which the names of types are marked. -/
inductive MarkedStep where
  /-- A step that uses no type. -/
  | plain (step : Page.Step)
  /-- Writes pieces. -/
  | write (pieces : List Piece)
deriving DecidableEq, Repr

namespace MarkedStep

/-- The step without marks. -/
def erase : MarkedStep → Page.Step
  | plain step => step
  | write pieces => .write (Piece.textOf pieces)

/-- The types a step names. -/
def names : MarkedStep → List String
  | plain _ => []
  | write pieces => Piece.namesOf pieces

/-- Steps without their marks. -/
def eraseAll (steps : List MarkedStep) : List Page.Step := steps.map erase

/-- The types that steps name. -/
def namesOf (steps : List MarkedStep) : List String := steps.flatMap names

/-- Steps that use no type. -/
def unmarked (steps : List Page.Step) : List MarkedStep := steps.map plain

/-- The steps that write pieces and end the line. -/
def line (pieces : List Piece) : List MarkedStep := [.write pieces, .plain .newline]

/-- The steps that write texts given by their pieces, each on a line of its own. -/
def lines (texts : List (List Piece)) : List MarkedStep := texts.flatMap line

/-- The steps that write texts on lines of their own after an empty line, if there are any. -/
def spacedLines (texts : List (List Piece)) : List MarkedStep :=
  match texts with
  | [] => []
  | texts => .plain .newline :: lines texts

/-- Steps, indented by one level. -/
def indented (steps : List MarkedStep) : List MarkedStep :=
  .plain .indent :: steps ++ [.plain .dedent]

/-! ## Erasure -/

@[simp] theorem eraseAll_nil : eraseAll [] = [] := rfl

@[simp] theorem eraseAll_plain_cons (step : Page.Step) (steps : List MarkedStep) :
    eraseAll (plain step :: steps) = step :: eraseAll steps := rfl

@[simp] theorem eraseAll_write_cons (pieces : List Piece) (steps : List MarkedStep) :
    eraseAll (write pieces :: steps) = .write (Piece.textOf pieces) :: eraseAll steps := rfl

@[simp] theorem eraseAll_append (first second : List MarkedStep) :
    eraseAll (first ++ second) = eraseAll first ++ eraseAll second :=
  List.map_append

@[simp] theorem eraseAll_unmarked (steps : List Page.Step) : eraseAll (unmarked steps) = steps := by
  simp [eraseAll, unmarked, Function.comp_def, erase]

@[simp] theorem eraseAll_line (pieces : List Piece) :
    eraseAll (line pieces) = Page.line (Piece.textOf pieces) := rfl

theorem eraseAll_flatMap (values : List α) (write : α → List MarkedStep) :
    eraseAll (values.flatMap write) = values.flatMap fun value => eraseAll (write value) :=
  List.map_flatMap

@[simp] theorem eraseAll_lines (texts : List (List Piece)) :
    eraseAll (lines texts) = Page.lines (texts.map Piece.textOf) := by
  simp [lines, Page.lines, eraseAll_flatMap, List.flatMap_map]

theorem eraseAll_spacedLines (texts : List (List Piece)) :
    eraseAll (spacedLines texts) =
      match texts.map Piece.textOf with
      | [] => []
      | texts => .newline :: Page.lines texts := by
  cases texts with
  | nil => rfl
  | cons first rest => simp [spacedLines]

@[simp] theorem eraseAll_indented (steps : List MarkedStep) :
    eraseAll (indented steps) = Page.indented (eraseAll steps) := by
  simp [indented, Page.indented]

/-! ## Names -/

@[simp] theorem namesOf_nil : namesOf [] = [] := rfl

@[simp] theorem namesOf_plain_cons (step : Page.Step) (steps : List MarkedStep) :
    namesOf (plain step :: steps) = namesOf steps := rfl

@[simp] theorem namesOf_write_cons (pieces : List Piece) (steps : List MarkedStep) :
    namesOf (write pieces :: steps) = Piece.namesOf pieces ++ namesOf steps := rfl

@[simp] theorem namesOf_append (first second : List MarkedStep) :
    namesOf (first ++ second) = namesOf first ++ namesOf second :=
  List.flatMap_append

@[simp] theorem namesOf_unmarked (steps : List Page.Step) : namesOf (unmarked steps) = [] := by
  simp [namesOf, unmarked, names]

@[simp] theorem namesOf_line (pieces : List Piece) :
    namesOf (line pieces) = Piece.namesOf pieces := by
  simp [line]

theorem namesOf_flatMap (values : List α) (write : α → List MarkedStep) :
    namesOf (values.flatMap write) = values.flatMap fun value => namesOf (write value) :=
  List.flatMap_assoc

@[simp] theorem namesOf_lines (texts : List (List Piece)) :
    namesOf (lines texts) = texts.flatMap Piece.namesOf := by
  simp [lines, namesOf_flatMap]

@[simp] theorem namesOf_spacedLines (texts : List (List Piece)) :
    namesOf (spacedLines texts) = texts.flatMap Piece.namesOf := by
  cases texts with
  | nil => rfl
  | cons first rest => simp [spacedLines]

@[simp] theorem namesOf_indented (steps : List MarkedStep) :
    namesOf (indented steps) = namesOf steps := by
  simp [indented]

end MarkedStep

end HeaderForge
