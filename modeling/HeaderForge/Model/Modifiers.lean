/-!
# Modifiers

The modifiers of a field or method that show in a header.
-/

namespace HeaderForge

/-- The modifiers of a declaration. -/
structure Modifiers where
  /-- Belongs to the type, not to its objects. -/
  isStatic : Bool := false
  /-- Cannot be assigned again or overridden. -/
  isFinal : Bool := false
  /-- Has no body. -/
  isAbstract : Bool := false
  /-- Has its body outside the source language. -/
  isNative : Bool := false
deriving DecidableEq, Repr

/-- No modifiers. -/
def Modifiers.none : Modifiers := {}

namespace Modifiers

/-- The modifiers, with that of members of the type. -/
def withStatic (modifiers : Modifiers) : Modifiers := { modifiers with isStatic := true }

/-- The modifiers, with that of what cannot be assigned again or overridden. -/
def withFinal (modifiers : Modifiers) : Modifiers := { modifiers with isFinal := true }

/-- The modifiers, with that of what has no body. -/
def withAbstract (modifiers : Modifiers) : Modifiers := { modifiers with isAbstract := true }

/-- The modifiers, with that of what has its body outside the source language. -/
def withNative (modifiers : Modifiers) : Modifiers := { modifiers with isNative := true }

/-- The modifiers of constants. -/
def constant : Modifiers := Modifiers.none.withStatic.withFinal

end Modifiers

end HeaderForge
