import HeaderForge.Json.Value

/-!
# Writing JSON texts

A value is written without blanks, its members in order. Only the characters that must be escaped in a
string are.
-/

namespace HeaderForge.Json

/-- A hexadecimal digit, in lower case. -/
def hexDigit (value : Nat) : Char :=
  if value < 10 then Char.ofNat ('0'.toNat + value) else Char.ofNat ('a'.toNat + value - 10)

/-- A character inside a string literal. -/
def stringChar (c : Char) : List Char :=
  if c = '"' then ['\\', '"']
  else if c = '\\' then ['\\', '\\']
  else if c = '\x08' then ['\\', 'b']
  else if c = '\x0c' then ['\\', 'f']
  else if c = '\n' then ['\\', 'n']
  else if c = '\r' then ['\\', 'r']
  else if c = '\t' then ['\\', 't']
  else if c.toNat < 0x20 then
    ['\\', 'u', '0', '0', hexDigit (c.toNat / 16), hexDigit (c.toNat % 16)]
  else [c]

/-- A string literal. -/
def stringChars (text : List Char) : List Char :=
  '"' :: text.flatMap stringChar ++ ['"']

/-- A string literal for a text; a string that denotes no text is written as an empty one. -/
def literalChars : Option String → List Char
  | some text => stringChars text.toList
  | none => stringChars []

mutual

/-- The characters of a value. -/
def chars : Json → List Char
  | .null => "null".toList
  | .bool true => "true".toList
  | .bool false => "false".toList
  | .number value => value.chars
  | .string text => literalChars text
  | .array items => '[' :: itemChars items
  | .object members => '\x7b' :: memberChars members
  | .unreadable => []

/-- The characters of items and the bracket after them. -/
def itemChars : List Json → List Char
  | [] => [']']
  | item :: rest => chars item ++ laterItemChars rest

/-- The characters of items after the first, and the bracket after them. -/
def laterItemChars : List Json → List Char
  | [] => [']']
  | item :: rest => ',' :: chars item ++ laterItemChars rest

/-- The characters of members and the brace after them. -/
def memberChars : List (Option String × Json) → List Char
  | [] => ['\x7d']
  | (key, value) :: rest => literalChars key ++ ':' :: chars value ++ laterMemberChars rest

/-- The characters of members after the first, and the brace after them. -/
def laterMemberChars : List (Option String × Json) → List Char
  | [] => ['\x7d']
  | (key, value) :: rest => ',' :: literalChars key ++ ':' :: chars value ++ laterMemberChars rest

end

/-- The text of a value. -/
def print (value : Json) : String := String.ofList value.chars

end HeaderForge.Json
