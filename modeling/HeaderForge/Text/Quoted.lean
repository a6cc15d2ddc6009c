import HeaderForge.Text.Unseen

/-!
# Quoted texts in messages

A message shows a text between double quotes. The quote and the backslash are escaped, tab, line feed,
carriage return and the null character have short escapes, and every other character without a mark of
its own is shown by its code point in hexadecimal.
-/

namespace HeaderForge.Text

/-- A number in lower-case hexadecimal. -/
def hexadecimal (n : Nat) : List Char := Nat.toDigits 16 n

/-- A character as a quoted text shows it. -/
def quotedChar (c : Char) : List Char :=
  if c = '\x00' then ['\\', '0']
  else if c = '\t' then ['\\', 't']
  else if c = '\r' then ['\\', 'r']
  else if c = '\n' then ['\\', 'n']
  else if c = '"' then ['\\', '"']
  else if c = '\\' then ['\\', '\\']
  else if unseen c then ['\\', 'u', '\x7b'] ++ hexadecimal c.toNat ++ ['\x7d']
  else [c]

/-- A text between double quotes, with escapes. -/
def quoted (text : String) : String :=
  String.ofList ('"' :: text.toList.flatMap quotedChar ++ ['"'])

end HeaderForge.Text
