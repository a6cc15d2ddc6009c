import HeaderForge.Json.Value

/-!
# Reading JSON texts

Parsing never fails. Where a text stops being JSON, the value found so far ends in `unreadable`, and
nothing after that place is looked at.
-/

namespace HeaderForge.Json

/-- Whether a character may stand between the parts of a JSON text. -/
def isBlank (c : Char) : Bool :=
  c == ' ' || c == '\n' || c == '\t' || c == '\r'

/-- The text from its first character that is no blank. -/
def skipBlanks (text : List Char) : List Char := text.dropWhile isBlank

/-- A text without a given beginning, if it has it. -/
def afterWord : List Char → List Char → Option (List Char)
  | [], text => some text
  | _ :: _, [] => none
  | expected :: word, c :: text => if c = expected then afterWord word text else none

/-! ## Strings -/

/-- The value of a hexadecimal digit. -/
def hexValue? (c : Char) : Option Nat :=
  if '0' ≤ c ∧ c ≤ '9' then some (c.toNat - '0'.toNat)
  else if 'a' ≤ c ∧ c ≤ 'f' then some (c.toNat - 'a'.toNat + 10)
  else if 'A' ≤ c ∧ c ≤ 'F' then some (c.toNat - 'A'.toNat + 10)
  else none

/-- The number of four hexadecimal digits at the start of a text. -/
def hexUnit? : List Char → Option (Nat × List Char)
  | a :: b :: c :: d :: rest => do
    let a ← hexValue? a
    let b ← hexValue? b
    let c ← hexValue? c
    let d ← hexValue? d
    pure (((a * 16 + b) * 16 + c) * 16 + d, rest)
  | _ => none

/-- A piece of a string literal. -/
inductive Piece where
  /-- A character, written plainly or by a short escape. -/
  | char (c : Char)
  /-- A 16-bit unit, written by its number. -/
  | unit (code : Nat)
deriving DecidableEq, Repr

/-- The character of a short escape. -/
def shortEscape? : Char → Option Char
  | '"' => some '"'
  | '\\' => some '\\'
  | '/' => some '/'
  | 'b' => some '\x08'
  | 'f' => some '\x0c'
  | 'n' => some '\n'
  | 'r' => some '\r'
  | 't' => some '\t'
  | _ => none

/-- The pieces of a string literal after its opening quote, and the text after its closing quote. -/
def pieces? : Nat → List Char → Option (List Piece × List Char)
  | 0, _ => none
  | _ + 1, [] => none
  | _ + 1, '"' :: rest => some ([], rest)
  | fuel + 1, '\\' :: 'u' :: rest => do
    let (code, rest) ← hexUnit? rest
    let (pieces, rest) ← pieces? fuel rest
    pure (.unit code :: pieces, rest)
  | fuel + 1, '\\' :: c :: rest => do
    let c ← shortEscape? c
    let (pieces, rest) ← pieces? fuel rest
    pure (.char c :: pieces, rest)
  | fuel + 1, c :: rest =>
    if c = '\\' ∨ c.toNat < 0x20 then none
    else do
      let (pieces, rest) ← pieces? fuel rest
      pure (.char c :: pieces, rest)

/-- Whether a 16-bit unit begins a surrogate pair. -/
def isLeadingUnit (code : Nat) : Bool := 0xD800 ≤ code && code < 0xDC00

/-- Whether a 16-bit unit ends a surrogate pair. -/
def isTrailingUnit (code : Nat) : Bool := 0xDC00 ≤ code && code < 0xE000

/-- The text of the pieces, unless a unit of a surrogate pair stands alone. -/
def denoted? : List Piece → Option (List Char)
  | [] => some []
  | .char c :: rest => (denoted? rest).map (c :: ·)
  | .unit leading :: rest =>
    if isTrailingUnit leading then none
    else if isLeadingUnit leading then
      match rest with
      | .unit trailing :: rest =>
        if isTrailingUnit trailing then
          let code := 0x10000 + (leading - 0xD800) * 0x400 + (trailing - 0xDC00)
          (denoted? rest).map (Char.ofNat code :: ·)
        else none
      | _ => none
    else (denoted? rest).map (Char.ofNat leading :: ·)

/-- A string literal after its opening quote: the text it denotes, if any, and what follows it. -/
def parseString? (text : List Char) : Option (Option String × List Char) :=
  (pieces? (text.length + 1) text).map fun (pieces, rest) =>
    ((denoted? pieces).map String.ofList, rest)

/-! ## Numbers -/

/-- The digits at the start of a text, and the rest. -/
def spanDigits (text : List Char) : List Char × List Char := text.span Char.isDigit

/-- The digits before the point: a zero, or digits of which the first is no zero. -/
def parseWhole? (text : List Char) : Option (List Char × List Char) :=
  match spanDigits text with
  | (['0'], rest) => some (['0'], rest)
  | ('0' :: _, _) => none
  | ([], _) => none
  | (digits, rest) => some (digits, rest)

/-- The digits after the point; none when there is no point. -/
def parseFraction? : List Char → Option (List Char × List Char)
  | '.' :: text =>
    match spanDigits text with
    | ([], _) => none
    | (digits, rest) => some (digits, rest)
  | text => some ([], text)

/-- The value of a row of decimal digits. -/
def naturalOfDigits (digits : List Char) : Nat :=
  digits.foldl (fun value digit => value * 10 + digitValue digit) 0

/-- An optional sign: whether it is a minus, and the text after it. -/
def parseSign : List Char → Bool × List Char
  | '+' :: text => (false, text)
  | '-' :: text => (true, text)
  | text => (false, text)

/-- The exponent, if there is one. -/
def parseExponent? : List Char → Option (Option Int × List Char)
  | [] => some (none, [])
  | mark :: text =>
    if mark = 'e' ∨ mark = 'E' then
      let (negative, text) := parseSign text
      match spanDigits text with
      | ([], _) => none
      | (digits, rest) =>
        let size : Int := naturalOfDigits digits
        some (some (if negative then -size else size), rest)
    else
      some (none, mark :: text)

/-- A number after its sign. -/
def parseNumeral? (text : List Char) : Option (Decimal.Numeral × List Char) := do
  let (whole, text) ← parseWhole? text
  let (fraction, text) ← parseFraction? text
  let (exponent, text) ← parseExponent? text
  pure (⟨whole, fraction, exponent⟩, text)

/-- A number. -/
def parseNumber? : List Char → Option (Number × List Char)
  | '-' :: text => (parseNumeral? text).map fun (numeral, rest) => (⟨true, numeral⟩, rest)
  | text => (parseNumeral? text).map fun (numeral, rest) => (⟨false, numeral⟩, rest)

/-! ## Values -/

/-- What was found, and the text that follows it unless the text broke off. -/
abbrev Found (α : Type) := α × Option (List Char)

/-- A word that stands for a value. -/
def parseWord (value : Json) (word : String) (text : List Char) : Found Json :=
  match afterWord word.toList text with
  | some rest => (value, some rest)
  | none => (.unreadable, none)

/-- A value with neither members nor items. -/
def parseLeaf (text : List Char) : Found Json :=
  match text with
  | 'n' :: _ => parseWord .null "null" text
  | 't' :: _ => parseWord (.bool true) "true" text
  | 'f' :: _ => parseWord (.bool false) "false" text
  | '"' :: rest =>
    match parseString? rest with
    | some (content, rest) => (.string content, some rest)
    | none => (.unreadable, none)
  | _ =>
    match parseNumber? text with
    | some (literal, rest) => (.number literal, some rest)
    | none => (.unreadable, none)

mutual

/-- A value at the start of a text, after blanks. Each level of nesting uses two units of fuel and each
item or member one, so twice the length of the text is enough. -/
def parseValue : Nat → List Char → Found Json
  | 0, _ => (.unreadable, none)
  | fuel + 1, text =>
    match skipBlanks text with
    | '[' :: rest =>
      match skipBlanks rest with
      | ']' :: rest => (.array [], some rest)
      | rest =>
        let (items, rest) := parseItems fuel rest
        (.array items, rest)
    | '\x7b' :: rest =>
      match skipBlanks rest with
      | '\x7d' :: rest => (.object [], some rest)
      | rest =>
        let (members, rest) := parseMembers fuel rest
        (.object members, rest)
    | rest => parseLeaf rest

/-- The items of an array up to its closing bracket; at least one is expected. -/
def parseItems : Nat → List Char → Found (List Json)
  | 0, _ => ([.unreadable], none)
  | fuel + 1, text =>
    match parseValue fuel text with
    | (item, none) => ([item], none)
    | (item, some rest) =>
      match skipBlanks rest with
      | ']' :: rest => ([item], some rest)
      | ',' :: rest =>
        let (items, rest) := parseItems fuel rest
        (item :: items, rest)
      | _ => ([item, .unreadable], none)

/-- The members of an object up to its closing brace; at least one is expected. -/
def parseMembers : Nat → List Char → Found (List (Option String × Json))
  | 0, _ => ([(none, .unreadable)], none)
  | fuel + 1, text =>
    match skipBlanks text with
    | '"' :: rest =>
      match parseString? rest with
      | none => ([(none, .unreadable)], none)
      | some (key, rest) =>
        match skipBlanks rest with
        | ':' :: rest =>
          match parseValue fuel rest with
          | (value, none) => ([(key, value)], none)
          | (value, some rest) =>
            match skipBlanks rest with
            | '\x7d' :: rest => ([(key, value)], some rest)
            | ',' :: rest =>
              let (members, rest) := parseMembers fuel rest
              ((key, value) :: members, rest)
            | _ => ([(key, value), (none, .unreadable)], none)
        | _ => ([(key, .unreadable)], none)
    | _ => ([(none, .unreadable)], none)

end

/-- A text read as JSON. -/
structure Document where
  /-- The value at the start of the text. -/
  value : Json
  /-- Whether the text ends with the value, but for blanks. -/
  isComplete : Bool

/-- Reads a text. -/
def parse (text : String) : Document :=
  match parseValue (2 * text.toList.length + 1) text.toList with
  | (value, none) => ⟨value, false⟩
  | (value, some rest) => ⟨value, (skipBlanks rest).isEmpty⟩

end HeaderForge.Json
