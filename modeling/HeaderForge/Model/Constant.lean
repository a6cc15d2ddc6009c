import HeaderForge.Binary.Format
import HeaderForge.Model.Primitive

/-!
# Constants

Values known when the source is compiled.
-/

namespace HeaderForge

open Binary (Single Double)

/-- A constant value. -/
inductive Constant where
  /-- A truth value. -/
  | boolean (value : Bool)
  /-- A character: a 16-bit unit of text. -/
  | char (value : UInt16)
  /-- An integer of 8 bits. -/
  | byte (value : Int8)
  /-- An integer of 16 bits. -/
  | short (value : Int16)
  /-- An integer of 32 bits. -/
  | int (value : Int32)
  /-- An integer of 64 bits. -/
  | long (value : Int64)
  /-- A floating-point number of 32 bits. -/
  | float (value : Single)
  /-- A floating-point number of 64 bits. -/
  | double (value : Double)
  /-- A text. -/
  | string (value : String)
deriving DecidableEq, Repr

namespace Constant

/-- The primitive type of the value; texts have none. -/
def primitive? : Constant → Option Primitive
  | boolean _ => some .boolean
  | char _ => some .char
  | byte _ => some .byte
  | short _ => some .short
  | int _ => some .int
  | long _ => some .long
  | float _ => some .float
  | double _ => some .double
  | string _ => none

/-- The name of the value's type, for messages. -/
def kindName (value : Constant) : String :=
  match value.primitive? with
  | some type => type.sourceName
  | none => "String"

end Constant

end HeaderForge
