/-!
# The support library

Names of the library that generated headers rely on: its header, base types, macros and attributes.
-/

namespace HeaderForge.SupportLibrary

/-- The line that brings in the library's header. -/
def importLine : String := "#import \"JreEmulation.h\""

/-- The class all classes extend, and the protocol all protocols adopt. -/
def rootObject : String := "NSObject"

/-- The protocol of all objects that come from the source language. -/
def sourceObjectProtocol : String := "JavaObject"

/-- The class all enums extend. -/
def enumBase : String := "JavaLangEnum"

/-- The header of the class all enums extend. -/
def enumBaseFile : String := "java/lang/Enum"

/-- What the class name of an enum ends in. -/
def enumEnding : String := "Enum"

/-- The protocol of objects that can be copied. -/
def copyingProtocol : String := "NSCopying"

/-- The source interface of objects that can be copied. -/
def copyingInterface : String := "Cloneable"

/-- The protocol all annotation types adopt. -/
def annotationProtocol : String := "JavaLangAnnotationAnnotation"

/-- The header of the protocol all annotation types adopt. -/
def annotationProtocolFile : String := "java/lang/annotation/Annotation"

/-- The class of arrays of objects. -/
def objectArray : String := "IOSObjectArray"

/-- The category for methods whose bodies are written elsewhere. -/
def nativeCategory : String := "NativeMethods"

/-- The attribute of deprecated declarations. -/
def deprecatedAttribute : String := "__attribute__((deprecated))"

/-- What marks a declared variable as defined elsewhere. -/
def exportMark : String := "FOUNDATION_EXPORT"

/-- What marks a variable that does not keep its object alive. -/
def weakMark : String := "__weak"

/-- The macro for a type that is set up before its first use. -/
def staticInit : String := "J2OBJC_STATIC_INIT"

/-- The start of a setup function that does nothing. -/
def emptyInit : String := "__attribute__((always_inline)) inline void"

/-- The macro for reading a static variable. -/
def staticGetter : String := "J2OBJC_STATIC_FIELD_GETTER"

/-- The macro for the address of a static variable. -/
def staticReference : String := "J2OBJC_STATIC_FIELD_REF_GETTER"

/-- The macro for setting a static variable. -/
def staticSetter : String := "J2OBJC_STATIC_FIELD_SETTER"

/-- The macro for setting a variable of an object. -/
def fieldSetter : String := "J2OBJC_FIELD_SETTER"

/-- The macro for counting a wrapped number up and down. -/
def boxedSteps : String := "BOXED_INC_AND_DEC"

/-- The line before variables that everything may use. -/
def publicLine : String := " @public"

/-- The line before variables that only their class may use. -/
def privateLine : String := " @private"

/-- The line that saves the compiler's warning settings. -/
def saveWarnings : String := "#pragma clang diagnostic push"

/-- The line that turns off warnings about deprecated declarations. -/
def allowDeprecated : String := "#pragma GCC diagnostic ignored \"-Wdeprecated-declarations\""

/-- The line that restores the compiler's warning settings. -/
def restoreWarnings : String := "#pragma clang diagnostic pop"

end HeaderForge.SupportLibrary
