import HeaderForge.Json.Parser
import HeaderForge.Model.Constant

/-!
# Integer expressions of the target language

The part of the target language that integer literals are written in: tokens, a minus sign before an
expression, and the conversion of an expression to a type. A token has a type of its own, which has to
hold its value. A minus sign is applied to the value of what follows it and does not belong to the
token; a conversion takes the value to the one of its type that differs by a multiple of the number of
values.
-/

namespace HeaderForge.Target

/-! ## Types -/

/-- The types of integer expressions. -/
inductive IntegerType where
  /-- 32 bits with a sign. -/
  | int
  /-- 32 bits without a sign. -/
  | unsignedInt
  /-- 64 bits with a sign. -/
  | longLong
  /-- 64 bits without a sign. -/
  | unsignedLongLong
deriving DecidableEq, Repr

namespace IntegerType

/-- The number of values of the type. -/
def count : IntegerType → Nat
  | int => UInt32.size
  | unsignedInt => UInt32.size
  | longLong => UInt64.size
  | unsignedLongLong => UInt64.size

/-- Whether the type has negative values. -/
def isSigned : IntegerType → Bool
  | int => true
  | unsignedInt => false
  | longLong => true
  | unsignedLongLong => false

/-- The least value of the type. -/
def least (type : IntegerType) : Int := if type.isSigned then -(type.count / 2 : Nat) else 0

/-- The greatest value of the type. -/
def greatest (type : IntegerType) : Int :=
  if type.isSigned then (type.count / 2 : Nat) - 1 else type.count - 1

/-- The value is one of the type. -/
structure Holds (type : IntegerType) (value : Int) : Prop where
  least_le : type.least ≤ value
  le_greatest : value ≤ type.greatest

instance (type : IntegerType) (value : Int) : Decidable (type.Holds value) :=
  decidable_of_iff (type.least ≤ value ∧ value ≤ type.greatest)
    ⟨fun ⟨least_le, le_greatest⟩ => ⟨least_le, le_greatest⟩,
      fun holds => ⟨holds.least_le, holds.le_greatest⟩⟩

/-- The value of the type that differs by a multiple of the number of values. -/
def wrap (type : IntegerType) (value : Int) : Int :=
  if type.isSigned then value.bmod type.count else value % type.count

/-- The value negated. With a sign there may be none; without a sign the type wraps around. -/
def negate? (type : IntegerType) (value : Int) : Option Int :=
  if type.isSigned then if type.Holds (-value) then some (-value) else none
  else some (type.wrap (-value))

end IntegerType

/-! ## Tokens and expressions -/

/-- An integer token. -/
inductive Token where
  /-- A decimal number, perhaps marked as a long one. -/
  | decimal (value : Nat) (isLong : Bool)
  /-- A hexadecimal number, perhaps marked as a long one. -/
  | hexadecimal (value : Nat) (isLong : Bool)
  /-- A character between quotes, by its code. -/
  | character (code : Nat)
  /-- A truth value. -/
  | truth (value : Bool)
deriving DecidableEq, Repr

namespace Token

/-- The value that is written. -/
def value : Token → Int
  | decimal value _ => value
  | hexadecimal value _ => value
  | character code => code
  | truth value => if value then 1 else 0

/-- The type. Hexadecimal numbers that are too large for a type with a sign have one without. -/
def type : Token → IntegerType
  | decimal _ isLong => if isLong then .longLong else .int
  | hexadecimal value isLong =>
    if isLong then if IntegerType.longLong.Holds value then .longLong else .unsignedLongLong
    else if IntegerType.int.Holds value then .int else .unsignedInt
  | character _ => .int
  | truth _ => .int

/-- The value does not exceed the range of the type. -/
def InRange (token : Token) : Prop := token.type.Holds token.value

instance (token : Token) : Decidable token.InRange :=
  inferInstanceAs (Decidable (token.type.Holds token.value))

end Token

/-- An expression around one token. -/
inductive Expression where
  /-- The token itself. -/
  | literal (token : Token)
  /-- A minus sign before an expression. -/
  | negated (operand : Expression)
  /-- The conversion of an expression to a type. -/
  | converted (type : IntegerType) (operand : Expression)
deriving DecidableEq, Repr

namespace Expression

/-- The only token of the expression. -/
def token : Expression → Token
  | literal token => token
  | negated operand => operand.token
  | converted _ operand => operand.token

/-- The type of the expression. -/
def type : Expression → IntegerType
  | literal token => token.type
  | negated operand => operand.type
  | converted type _ => type

/-- The value of the expression. It has none if a token is out of range or a negation overflows. -/
def value? : Expression → Option Int
  | literal token => if token.InRange then some token.value else none
  | negated operand => operand.value?.bind operand.type.negate?
  | converted type operand => operand.value?.map type.wrap

end Expression

/-! ## Reading words -/

/-- The number of a row of digits to a base of at most sixteen. -/
def readDigits? (base : Nat) (digits : List Char) : Option Nat :=
  digits.foldlM (fun value c => do
    let digit ← Json.hexValue? c
    if digit < base then some (base * value + digit) else none) 0

/-- A word without the mark of long numbers, and whether it has the mark. -/
def splitLong (word : List Char) : List Char × Bool :=
  match word.reverse with
  | 'L' :: 'L' :: rest => (rest.reverse, true)
  | _ => (word, false)

/-- The token of a number. A zero before other decimal digits would make it octal. -/
def readNumber? (word : List Char) : Option Token :=
  match splitLong word with
  | ('0' :: 'x' :: first :: rest, isLong) =>
    (readDigits? 16 (first :: rest)).map (.hexadecimal · isLong)
  | (['0'], isLong) => some (.decimal 0 isLong)
  | ('0' :: _, _) => none
  | (first :: rest, isLong) => (readDigits? 10 (first :: rest)).map (.decimal · isLong)
  | ([], _) => none

/-- The token of a word. -/
def readWord? (word : List Char) : Option Token :=
  if word = ['T', 'R', 'U', 'E'] then some (.truth true)
  else if word = ['F', 'A', 'L', 'S', 'E'] then some (.truth false)
  else readNumber? word

/-! ## Reading expressions -/

/-- What a text is divided into. -/
inductive Lexeme where
  /-- A name, a keyword or a number. -/
  | word (chars : List Char)
  /-- A character between quotes, by its code. -/
  | character (code : Nat)
  /-- A minus sign. -/
  | minus
  /-- An opening parenthesis. -/
  | opening
  /-- A closing parenthesis. -/
  | closing
deriving DecidableEq, Repr

/-- The lexeme of the characters of a word, if there are any. -/
def wordLexeme (pending : List Char) : List Lexeme :=
  if pending = [] then [] else [.word pending]

/-- The lexemes of a text, given the characters of a word that it may go on with. Between quotes a
backslash stands only before a quote or a backslash. -/
def lexemes? : List Char → List Char → Option (List Lexeme)
  | pending, [] => some (wordLexeme pending)
  | pending, '\'' :: '\\' :: c :: '\'' :: rest =>
    if c = '\'' ∨ c = '\\' then
      (lexemes? [] rest).map (wordLexeme pending ++ .character c.toNat :: ·)
    else none
  | pending, '\'' :: c :: '\'' :: rest =>
    if c ≠ '\'' ∧ c ≠ '\\' ∧ 0x20 ≤ c.toNat ∧ c.toNat ≤ 0x7E then
      (lexemes? [] rest).map (wordLexeme pending ++ .character c.toNat :: ·)
    else none
  | pending, ' ' :: rest => (lexemes? [] rest).map (wordLexeme pending ++ ·)
  | pending, '-' :: rest => (lexemes? [] rest).map (wordLexeme pending ++ .minus :: ·)
  | pending, '(' :: rest => (lexemes? [] rest).map (wordLexeme pending ++ .opening :: ·)
  | pending, ')' :: rest => (lexemes? [] rest).map (wordLexeme pending ++ .closing :: ·)
  | pending, c :: rest => if c.isAlphanum then lexemes? (pending ++ [c]) rest else none

/-- An expression at the start of lexemes, and the lexemes after it. -/
def readOperand? : List Lexeme → Option (Expression × List Lexeme)
  | .opening :: .word ['i', 'n', 't'] :: .closing :: rest =>
    (readOperand? rest).map fun (operand, rest) => (.converted .int operand, rest)
  | .opening :: .word ['l', 'o', 'n', 'g'] :: .word ['l', 'o', 'n', 'g'] :: .closing :: rest =>
    (readOperand? rest).map fun (operand, rest) => (.converted .longLong operand, rest)
  | .opening :: rest =>
    match readOperand? rest with
    | some (operand, .closing :: rest) => some (operand, rest)
    | _ => none
  | .minus :: rest => (readOperand? rest).map fun (operand, rest) => (.negated operand, rest)
  | .word chars :: rest => (readWord? chars).map fun token => (.literal token, rest)
  | .character code :: rest => some (.literal (.character code), rest)
  | _ => none

/-- The expression that a text is. -/
def read? (text : String) : Option Expression :=
  match (lexemes? [] text.toList).bind readOperand? with
  | some (expression, []) => some expression
  | _ => none

/-- The text is an expression of the type with the value, and its token is in range. -/
def Denotes (text : String) (type : IntegerType) (value : Int) : Prop :=
  ∃ expression, read? text = some expression ∧ expression.token.InRange ∧
    expression.type = type ∧ expression.value? = some value

theorem Denotes.unique {text : String} {first second : IntegerType} {left right : Int}
    (first_denoted : Denotes text first left) (second_denoted : Denotes text second right) :
    left = right := by
  obtain ⟨expression, read, -, -, value_eq⟩ := first_denoted
  obtain ⟨other, other_read, -, -, other_eq⟩ := second_denoted
  obtain rfl := Option.some.inj (read.symm.trans other_read)
  exact Option.some.inj (value_eq.symm.trans other_eq)

end HeaderForge.Target
