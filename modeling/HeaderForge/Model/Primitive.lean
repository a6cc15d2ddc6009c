import HeaderForge.Text.Words

/-!
# Primitive types

The primitive types of the source language, with the names the target language and its support library
have for them.
-/

namespace HeaderForge

/-- A primitive type. -/
inductive Primitive where
  /-- Truth values. -/
  | boolean
  /-- Integers of 8 bits. -/
  | byte
  /-- Characters: 16-bit units of text. -/
  | char
  /-- Integers of 16 bits. -/
  | short
  /-- Integers of 32 bits. -/
  | int
  /-- Integers of 64 bits. -/
  | long
  /-- Floating-point numbers of 32 bits. -/
  | float
  /-- Floating-point numbers of 64 bits. -/
  | double
  /-- The result of methods that return nothing. -/
  | void
deriving DecidableEq, Repr

namespace Primitive

/-- All primitive types. -/
def all : List Primitive := [boolean, byte, char, short, int, long, float, double, void]

/-- The name in the source language. -/
def sourceName : Primitive → String
  | boolean => "boolean"
  | byte => "byte"
  | char => "char"
  | short => "short"
  | int => "int"
  | long => "long"
  | float => "float"
  | double => "double"
  | void => "void"

/-- The name in the target language. -/
def targetName : Primitive → String
  | boolean => "BOOL"
  | byte => "char"
  | char => "unichar"
  | short => "short int"
  | int => "int"
  | long => "long long"
  | float => "float"
  | double => "double"
  | void => "void"

/-- The source name with a capital, as it stands in method names. -/
def capitalName (primitive : Primitive) : String := Text.capitalize primitive.sourceName

/-- The class of arrays of the type. -/
def arrayClass? : Primitive → Option String
  | boolean => some "IOSBooleanArray"
  | byte => some "IOSByteArray"
  | char => some "IOSCharArray"
  | short => some "IOSShortArray"
  | int => some "IOSIntArray"
  | long => some "IOSLongArray"
  | float => some "IOSFloatArray"
  | double => some "IOSDoubleArray"
  | void => none

/-- The class whose objects hold one value of the type. -/
def wrapper : Primitive → String
  | boolean => "java.lang.Boolean"
  | byte => "java.lang.Byte"
  | char => "java.lang.Character"
  | short => "java.lang.Short"
  | int => "java.lang.Integer"
  | long => "java.lang.Long"
  | float => "java.lang.Float"
  | double => "java.lang.Double"
  | void => "java.lang.Void"

/-- The method that takes the value out of a wrapper. -/
def valueAccessor : Primitive → String
  | boolean => "booleanValue"
  | byte => "charValue"
  | char => "charValue"
  | short => "shortValue"
  | int => "intValue"
  | long => "longLongValue"
  | float => "floatValue"
  | double => "doubleValue"
  | void => ""

/-- Whether wrapped values can be counted up and down. -/
def hasStep : Primitive → Bool
  | boolean => false
  | void => false
  | _ => true

/-- The primitive type of a source name. -/
def ofSourceName? (name : String) : Option Primitive :=
  all.find? fun primitive => primitive.sourceName == name

/-- The primitive type that a wrapper class holds. -/
def ofWrapper? (qualifiedName : String) : Option Primitive :=
  all.find? fun primitive => primitive.wrapper == qualifiedName

end Primitive

end HeaderForge
