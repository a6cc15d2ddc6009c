import HeaderForge.Manifest.Fault

/-!
# Codecs

A codec is a reader and a writer of one kind of value. Readers go through a value in the order of its
text and report the first fault they meet.

A declaration is read ahead to its end before its content is looked at, because its tag may come last.
Some faults are put differently inside such content, so readers are told where they are.
-/

namespace HeaderForge.Manifest

open Binary (Single Double)

/-- Where a value stands. -/
structure Site where
  /-- Whether the value is content that has been read ahead. -/
  isReadAhead : Bool
  /-- How many further levels of arrays and objects may be opened. -/
  levels : Nat
deriving DecidableEq, Repr

/-- A reader of values. -/
abbrev Reader (α : Type) := Site → Json → Except Fault α

/-- A reader and a writer of values. -/
structure Codec (α : Type) where
  /-- Reads a value. -/
  read : Reader α
  /-- Writes a value. -/
  write : α → Json

/-- The site inside an array or object, if one may be opened. -/
def Site.inside (site : Site) : Except Fault Site :=
  match site.levels with
  | 0 => .error .malformed
  | levels + 1 => .ok { site with levels }

/-- The fault of a value of the wrong type. -/
def mismatch (expected : String) (json : Json) : Except Fault α :=
  match Shape.of? json with
  | some found => .error (.wrongType found expected)
  | none => .error .malformed

/-- Texts. -/
def text : Codec String where
  read _ json :=
    match json with
    | .string (some content) => .ok content
    | json => mismatch "a string" json
  write := Json.text

/-- Truth values. -/
def flag : Codec Bool where
  read _ json :=
    match json with
    | .bool value => .ok value
    | json => mismatch "a boolean" json
  write := Json.bool

/-- Reads an integer between two limits, both included. -/
def readInteger (low high : Int) (typeName : String) (json : Json) : Except Fault Int :=
  match json with
  | .number number =>
    match number.quantity with
    | .integer value =>
      if low ≤ value ∧ value ≤ high then .ok value else .error (.outOfRange value typeName)
    | _ => mismatch typeName json
  | json => mismatch typeName json

/-- Integers of 8 bits. -/
def int8 : Codec Int8 where
  read _ json := (readInteger Int8.minValue.toInt Int8.maxValue.toInt "i8" json).map Int8.ofInt
  write value := .integer value.toInt

/-- Integers of 16 bits. -/
def int16 : Codec Int16 where
  read _ json := (readInteger Int16.minValue.toInt Int16.maxValue.toInt "i16" json).map Int16.ofInt
  write value := .integer value.toInt

/-- Integers of 32 bits. -/
def int32 : Codec Int32 where
  read _ json := (readInteger Int32.minValue.toInt Int32.maxValue.toInt "i32" json).map Int32.ofInt
  write value := .integer value.toInt

/-- Integers of 64 bits. -/
def int64 : Codec Int64 where
  read _ json := (readInteger Int64.minValue.toInt Int64.maxValue.toInt "i64" json).map Int64.ofInt
  write value := .integer value.toInt

/-- Natural numbers of 16 bits. -/
def unsigned16 : Codec UInt16 where
  read _ json := (readInteger 0 (UInt16.size - 1) "u16" json).map fun value => UInt16.ofNat value.toNat
  write value := .integer value.toNat

/-- Floating-point numbers of 32 bits. Integers are accepted; a number with a point or exponent is taken
as a number of 64 bits first. What is not finite is written as null. -/
def single : Codec Single where
  read _ json :=
    match json with
    | .number number =>
      match number.quantity with
      | .integer value => .ok (.ofInt value)
      | .floating value => .ok value.toSingle
      | .tooLarge => .error .malformed
    | json => mismatch "f32" json
  write value := ((Json.Number.ofSingle? value).map .number).getD .null

/-- Floating-point numbers of 64 bits. Integers are accepted. What is not finite is written as null. -/
def double : Codec Double where
  read _ json :=
    match json with
    | .number number =>
      match number.quantity with
      | .integer value => .ok (.ofInt value)
      | .floating value => .ok value
      | .tooLarge => .error .malformed
    | json => mismatch "f64" json
  write value := ((Json.Number.ofDouble? value).map .number).getD .null

/-- Values that may be left open with null. -/
def nullable (codec : Codec α) : Codec (Option α) where
  read site json :=
    match json with
    | .null => .ok none
    | json => (codec.read site json).map some
  write
    | none => .null
    | some value => codec.write value

/-- Lists, as arrays. -/
def list (codec : Codec α) : Codec (List α) where
  read site json :=
    match json with
    | .array items => do
      let site ← site.inside
      items.mapM (codec.read site)
    | json => mismatch "a sequence" json
  write values := .array (values.map codec.write)

end HeaderForge.Manifest
