import HeaderForge.Text.Capital

/-!
# Words of a dotted name

Names come in parts joined by dots. This file splits and joins such names, writes them in camel case,
and has the few other operations on whole texts that the library needs.
-/

namespace HeaderForge.Text

/-- The parts of a text between the occurrences of a character; there is always at least one. -/
def split (mark : Char) (text : String) : List String :=
  (text.toList.splitOn mark).map String.ofList

/-- The text after the last occurrence of a character, or all of it. -/
def afterLast (mark : Char) (text : String) : String :=
  (split mark text).getLast?.getD text

/-- The text before the first occurrence of a character, or all of it. -/
def beforeFirst (mark : Char) (text : String) : String :=
  (split mark text).head?.getD text

/-- The text before and after the first occurrence of a character. -/
def cutAt (mark : Char) (text : String) : Option (String × String) :=
  match text.toList.span (· != mark) with
  | (before, _ :: after) => some (String.ofList before, String.ofList after)
  | (_, []) => none

/-- The text with every occurrence of one character replaced by another. -/
def replaceChar (old new : Char) (text : String) : String :=
  String.ofList (text.toList.map fun c => if c = old then new else c)

/-- The text without the run of a character at its end. -/
def trimEnd (mark : Char) (text : String) : String :=
  String.ofList (text.toList.reverse.dropWhile (· == mark)).reverse

/-- Whether the text begins with another. -/
def startsWith (text start : String) : Bool :=
  start.toList.isPrefixOf text.toList

/-- Whether the text ends with another. -/
def endsWith (text ending : String) : Bool :=
  ending.toList.isSuffixOf text.toList

/-- The text without an ending, if it has that ending. -/
def dropEnding (ending text : String) : String :=
  if endsWith text ending then
    String.ofList (text.toList.take (text.toList.length - ending.toList.length))
  else
    text

/-- The characters with every occurrence of a pattern replaced, found from the left without overlap. -/
def substituteChars (pattern replacement : List Char) : List Char → Nat → List Char
  | [], _ => []
  | _ :: rest, skipped + 1 => substituteChars pattern replacement rest skipped
  | c :: rest, 0 =>
    if pattern.isPrefixOf (c :: rest) then
      replacement ++ substituteChars pattern replacement rest (pattern.length - 1)
    else
      c :: substituteChars pattern replacement rest 0

/-- The text with every occurrence of a nonempty pattern replaced. -/
def substitute (pattern replacement text : String) : String :=
  String.ofList (substituteChars pattern.toList replacement.toList text.toList 0)

/-- The text with its first character in capital form. -/
def capitalize (text : String) : String :=
  match text.toList with
  | [] => ""
  | first :: rest => String.ofList (capitalForm first ++ rest)

/-- A dotted name in camel case: its nonempty parts, each capitalized, written without dots. -/
def camelCase (name : String) : String :=
  String.join (((split '.' name).filter (· ≠ "")).map capitalize)

end HeaderForge.Text
