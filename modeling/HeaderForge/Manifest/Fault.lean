import HeaderForge.Json.Value
import HeaderForge.Text.Quoted

/-!
# Faults of manifests

A manifest is the JSON text that describes a source unit. This file says what can be wrong with one, and
how the fault is put into words.
-/

namespace HeaderForge.Manifest

open Binary (Double)

/-- What a value looks like to a reader that expected something else. -/
inductive Shape where
  /-- The null value. -/
  | null
  /-- A truth value. -/
  | truth (value : Bool)
  /-- An integer. -/
  | integer (value : Int)
  /-- A floating-point number. -/
  | floating (value : Double)
  /-- A string. -/
  | text (content : String)
  /-- An array. -/
  | sequence
  /-- An object. -/
  | map
  /-- The bare name of a variant. -/
  | bareVariant
deriving DecidableEq, Repr

/-- The shape of a value, unless the value cannot be read. -/
def Shape.of? : Json → Option Shape
  | .null => some .null
  | .bool value => some (.truth value)
  | .number value =>
    match value.quantity with
    | .integer value => some (.integer value)
    | .floating value => some (.floating value)
    | .tooLarge => none
  | .string content => content.map .text
  | .array _ => some .sequence
  | .object _ => some .map
  | .unreadable => none

/-- A floating-point number as messages show it. -/
def floatingText (value : Double) : String :=
  match value.datum with
  | .nan => "NaN"
  | .infinite negative => if negative then "-inf" else "inf"
  | .finite .. => ((Json.Number.ofDouble? value).map fun number => String.ofList number.chars).getD ""

/-- A shape as messages show it. -/
def Shape.describe : Shape → String
  | null => "null"
  | truth value => if value then "boolean `true`" else "boolean `false`"
  | integer value => "integer `" ++ toString value ++ "`"
  | floating value => "floating point `" ++ floatingText value ++ "`"
  | text content => "string " ++ Text.quoted content
  | sequence => "sequence"
  | map => "map"
  | bareVariant => "unit variant"

/-- What is wrong with a manifest. -/
inductive Fault where
  /-- The text is not JSON, nests too deeply, or has the wrong shape where one of several variants is
  expected. -/
  | malformed
  /-- A member that must be given is not. -/
  | missingField (name : String)
  /-- A member is given twice. -/
  | duplicateField (name : String)
  /-- None of the variants has the name. -/
  | unknownVariant (name : String) (known : List String)
  /-- A value is of the wrong type. -/
  | wrongType (found : Shape) (expected : String)
  /-- An integer does not fit its type. -/
  | outOfRange (value : Int) (expected : String)
  /-- An array is too short or too long. -/
  | wrongLength (length : Nat) (expected : String)
  /-- An object that should name one variant has no member or several. -/
  | notOneMember
deriving DecidableEq, Repr

/-- A name between backquotes. -/
def backquoted (name : String) : String := "`" ++ name ++ "`"

/-- The words for a fault; a malformed text has none. -/
def Fault.message? : Fault → Option String
  | malformed => none
  | missingField name => some ("missing field " ++ backquoted name)
  | duplicateField name => some ("duplicate field " ++ backquoted name)
  | unknownVariant name known =>
    some ("unknown variant " ++ backquoted name ++ ", expected one of "
      ++ ", ".intercalate (known.map backquoted))
  | wrongType found expected =>
    some ("invalid type: " ++ found.describe ++ ", expected " ++ expected)
  | outOfRange value expected =>
    some ("invalid value: " ++ (Shape.integer value).describe ++ ", expected " ++ expected)
  | wrongLength length expected =>
    some ("invalid length " ++ toString length ++ ", expected " ++ expected)
  | notOneMember => some "invalid value: map, expected map with a single key"

end HeaderForge.Manifest
