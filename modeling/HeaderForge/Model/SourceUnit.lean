import HeaderForge.Model.Declaration
import HeaderForge.Path

/-!
# Source units

A source file with everything it declares, from which one header is made.
-/

namespace HeaderForge

/-- A source file. -/
structure SourceUnit where
  /-- The package of its declarations. -/
  package : String := ""
  /-- The path of the file. -/
  sourceFile : String
  /-- The declarations, in order; types declared inside others stand beside them. -/
  declarations : List Declaration := []
deriving DecidableEq, Repr

namespace SourceUnit

/-- The name of the source file without folders and extension. -/
def stem (unit : SourceUnit) : String := (Path.stem? unit.sourceFile).getD unit.sourceFile

/-- The first top-level declaration named like the source file. -/
def mainDeclaration? (unit : SourceUnit) : Option Declaration :=
  unit.declarations.find? fun declaration =>
    declaration.isTopLevel && declaration.type.name == unit.stem

/-- The path of the header: that of the source file, with the extension of headers. -/
def headerPath (unit : SourceUnit) : String := Path.withExtension "h" unit.sourceFile

end SourceUnit

end HeaderForge
