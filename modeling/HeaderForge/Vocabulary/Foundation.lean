/-!
# Foundation types

Some types of the source language's core library stand for types that the target's own library has
already. They are never declared or included by name.
-/

namespace HeaderForge.Foundation

/-- A source type with a counterpart in the target's library. -/
structure Counterpart where
  /-- The qualified name of the source type. -/
  sourceName : String
  /-- The name of the counterpart. -/
  targetName : String
  /-- Whether the counterpart is a protocol. -/
  isProtocol : Bool := false
deriving DecidableEq, Repr

/-- The class all classes extend. -/
def objectName : String := "java.lang.Object"

/-- The types with a counterpart. -/
def counterparts : List Counterpart :=
  [{ sourceName := objectName, targetName := "NSObject" },
   { sourceName := "java.lang.String", targetName := "NSString" },
   { sourceName := "java.lang.Number", targetName := "NSNumber" },
   { sourceName := "java.lang.Throwable", targetName := "NSException" },
   { sourceName := "java.lang.Class", targetName := "IOSClass" },
   { sourceName := "java.lang.Cloneable", targetName := "NSCopying", isProtocol := true }]

/-- The counterpart of a source type. -/
def counterpart? (qualifiedName : String) : Option Counterpart :=
  counterparts.find? fun counterpart => counterpart.sourceName == qualifiedName

/-- The name of a source type's counterpart. -/
def targetName? (qualifiedName : String) : Option String :=
  (counterpart? qualifiedName).map Counterpart.targetName

/-- Whether a source type has a counterpart. -/
def isMapped (qualifiedName : String) : Bool := (counterpart? qualifiedName).isSome

/-- Whether a source type has a counterpart that is a protocol. -/
def isProtocol (qualifiedName : String) : Bool :=
  (counterpart? qualifiedName).any Counterpart.isProtocol

end HeaderForge.Foundation
