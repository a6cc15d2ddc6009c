/-!
# Pages

A page is text written from top to bottom. Lines are indented when their first character is written, so
empty lines stay empty. What is to be written is given as a list of steps.
-/

namespace HeaderForge

/-- A step of writing. -/
inductive Page.Step where
  /-- Writes characters. A line feed among them ends the line. -/
  | write (text : String)
  /-- Ends the line. -/
  | newline
  /-- Indents the lines that begin from here on by one level more. -/
  | indent
  /-- Indents the lines that begin from here on by one level less, if they are indented at all. -/
  | dedent
deriving DecidableEq, Repr

/-- A text being written. -/
structure Page where
  /-- The number of spaces of one level of indentation. -/
  indentWidth : Nat
  /-- The text so far. -/
  text : String := ""
  /-- The level of indentation. -/
  level : Nat := 0
  /-- Whether the next character begins a line. -/
  atLineStart : Bool := true
deriving DecidableEq, Repr

namespace Page

/-- The number of spaces before a line of a level. It is counted in 64 bits, and so it wraps around. -/
def spaces (level indentWidth : Nat) : Nat := level * indentWidth % UInt64.size

/-- The spaces before a line that begins now. -/
def indentation (page : Page) : List Char :=
  List.replicate (spaces page.level page.indentWidth) ' '

/-- Ends the line. -/
def newline (page : Page) : Page :=
  { page with text := page.text.push '\n', atLineStart := true }

/-- Writes one character. -/
def put (page : Page) (c : Char) : Page :=
  if c = '\n' then page.newline
  else if page.atLineStart then
    { page with text := (page.text ++ String.ofList page.indentation).push c, atLineStart := false }
  else
    { page with text := page.text.push c }

/-- Writes characters. -/
def write (page : Page) (text : String) : Page := text.toList.foldl put page

/-- Takes one step. -/
def take (page : Page) : Step → Page
  | .write text => page.write text
  | .newline => page.newline
  | .indent => { page with level := page.level + 1 }
  | .dedent => { page with level := page.level - 1 }

/-- Takes steps in order. -/
def run (page : Page) (steps : List Step) : Page := steps.foldl take page

/-- The steps that write a text and end the line. -/
def line (text : String) : List Step := [.write text, .newline]

/-- The steps that write texts, each on a line of its own. -/
def lines (texts : List String) : List Step := texts.flatMap line

/-- Steps, indented by one level. -/
def indented (steps : List Step) : List Step := .indent :: steps ++ [.dedent]

/-- The text that steps write on an empty page. -/
def render (indentWidth : Nat) (steps : List Step) : String :=
  (run { indentWidth } steps).text

end Page

end HeaderForge
