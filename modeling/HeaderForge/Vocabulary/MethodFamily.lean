import HeaderForge.Text.Words

/-!
# Method families

The target's memory management reads an ownership rule from the first word of a method's name. Methods
that only happen to begin with such a word must say that they do not follow the rule.
-/

namespace HeaderForge.MethodFamily

/-- The words with an ownership rule. -/
def reservedWords : List String := ["new", "copy", "alloc", "init", "mutableCopy"]

/-- Whether a method of the name must say that it belongs to no family. -/
def needsOverride (methodName : String) : Bool :=
  reservedWords.any fun word => Text.startsWith methodName word

/-- What such a method says. -/
def noFamily : String := "OBJC_METHOD_FAMILY_NONE"

end HeaderForge.MethodFamily
