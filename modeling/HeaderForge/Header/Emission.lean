import HeaderForge.Naming.Methods
import HeaderForge.Page

/-!
# Emission

What a part of a header is made of: steps of writing, and the fault that stopped it, if any.
-/

namespace HeaderForge.Header

/-- How headers are written. -/
structure Settings where
  /-- The number of spaces of one level of indentation. -/
  indentWidth : Nat := 2
  /-- Whether deprecated declarations are marked. -/
  marksDeprecated : Bool := true
  /-- The comment at the top, with a place for the source file's path. -/
  banner : String :=
    "//\n//  Generated by the J2ObjC translator.  DO NOT EDIT!\n//  source: \x7bsource\x7d\n//\n"
deriving DecidableEq, Repr

/-- The place for the source file's path in a banner. -/
def sourcePlace : String := "\x7bsource\x7d"

/-- The comment at the top of the header for a source file. -/
def Settings.bannerFor (settings : Settings) (sourceFile : String) : String :=
  Text.substitute sourcePlace sourceFile settings.banner

/-- What every part of a header depends on. -/
structure Context where
  /-- How names are made. -/
  naming : Naming := {}
  /-- How headers are written. -/
  settings : Settings := {}
deriving DecidableEq, Repr

/-- A unit for which no header can be written. -/
inductive Fault where
  /-- A field declaration of the type declares no variable. -/
  | emptyField (declaration : String)
  /-- The value of a constant is not of its declared type. -/
  | constantMismatch (declaration field expected found : String)
deriving DecidableEq, Repr

namespace Fault

/-- The words for a fault. -/
def message : Fault → String
  | emptyField declaration => "field declaration in `" ++ declaration ++ "` has no variables"
  | constantMismatch declaration field expected found =>
    "constant `" ++ field ++ "` in `" ++ declaration ++ "` is declared `" ++ expected
      ++ "` but holds a `" ++ found ++ "` value"

/-- The name of a fault for other programs. -/
def code : Fault → String
  | emptyField _ => "headergen::emit::empty_field"
  | constantMismatch _ _ _ _ => "headergen::emit::constant_kind_mismatch"

/-- What can be done about a fault. -/
def help : Fault → String
  | emptyField _ => "every field declaration must declare at least one variable fragment"
  | constantMismatch _ _ _ _ =>
    "the constant value must have the same kind as the field's primitive type"

end Fault

/-- Steps of writing, and the fault that stopped them, if any. -/
structure Emission where
  /-- What was written. -/
  steps : List Page.Step
  /-- What stopped the writing. -/
  fault : Option Fault := none
deriving DecidableEq, Repr

namespace Emission

/-- Nothing written, because of a fault. -/
def failed (fault : Fault) : Emission := ⟨[], some fault⟩

/-- One emission after another; the second only happens if nothing stopped the first. -/
def andThen (first second : Emission) : Emission :=
  match first.fault with
  | some _ => first
  | none => ⟨first.steps ++ second.steps, second.fault⟩

/-- An emission for each value, in order, until one is stopped. -/
def forEach (values : List α) (emit : α → Emission) : Emission :=
  match values with
  | [] => ⟨[], none⟩
  | value :: rest => (emit value).andThen (forEach rest emit)

end Emission

end HeaderForge.Header
