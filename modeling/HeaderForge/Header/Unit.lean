import HeaderForge.Header.Annotations
import HeaderForge.Header.Enums
import HeaderForge.Import

/-!
# Whole headers

A header is a comment, a guard with the imports, the declarations in order, and the end of the guard.
-/

namespace HeaderForge.Header

open Page (line lines)

/-- The macro that guards a header. -/
def guardName (mainName : String) : String := "_" ++ mainName ++ "_H_"

/-- Lines that are only written where deprecated declarations are marked. -/
def markingLines (context : Context) (texts : List String) : List Page.Step :=
  if context.settings.marksDeprecated then lines texts else []

/-- The statements that types exist, and an empty line if there are any. -/
def forwardLines (entries : List Import) : List Page.Step :=
  match Ascending.texts (entries.map Import.forwardDeclaration) with
  | [] => []
  | statements => lines statements ++ [.newline]

/-- The guard, and what the header depends on. -/
def prologue (context : Context) (mainName : String) (dependencies : Dependencies) :
    List Page.Step :=
  lines ["#ifndef " ++ guardName mainName, "#define " ++ guardName mainName]
    ++ markingLines context [SupportLibrary.saveWarnings, SupportLibrary.allowDeprecated]
    ++ .newline :: forwardLines dependencies.forward ++ line SupportLibrary.importLine
    ++ lines (Ascending.texts (dependencies.superTypes.map Import.includeStatement))

/-- The end of the guard. -/
def epilogue (context : Context) (mainName : String) : List Page.Step :=
  .newline :: markingLines context [SupportLibrary.restoreWarnings]
    ++ line ("#endif // " ++ guardName mainName)

/-- A declaration. -/
def declarationEmission (context : Context) : Declaration → Emission
  | .ofType declaration => typeEmission context declaration
  | .ofEnum declaration => enumEmission context declaration
  | .ofAnnotationType declaration => annotationEmission context declaration

/-- A declaration after an empty line. -/
def separated (context : Context) (declaration : Declaration) : Emission :=
  Emission.andThen ⟨[.newline], none⟩ (declarationEmission context declaration)

/-- The whole header of a unit. -/
def unitEmission (context : Context) (unit : SourceUnit) : Emission :=
  let mainName := context.naming.mainName unit
  let start :=
    line (context.settings.bannerFor unit.sourceFile)
      ++ prologue context mainName (Dependencies.collect context.naming unit)
  (Emission.andThen ⟨start, none⟩ (.forEach unit.declarations (separated context))).andThen
    ⟨epilogue context mainName, none⟩

/-- The text of the header of a unit. Nothing is kept of a header that cannot be finished. -/
def generate (context : Context) (unit : SourceUnit) : Except Fault String :=
  let emission := unitEmission context unit
  match emission.fault with
  | some fault => .error fault
  | none => .ok (Page.render context.settings.indentWidth emission.steps)

end HeaderForge.Header
