import HeaderForge.Import
import HeaderForge.Json.Parser
import HeaderForge.Json.Printer
import HeaderForge.Manifest.Declarations

/-!
# Manifests

A manifest is the JSON text of a source unit. Lists of dependencies have a text of their own.
-/

namespace HeaderForge.Manifest

/-- Source units. -/
def sourceUnit : Codec SourceUnit :=
  record "CompilationUnit"
    (optional "package" text "" SourceUnit.package <|
     required "source_file" text SourceUnit.sourceFile <|
     optional "types" (list declaration) [] SourceUnit.declarations <|
     .nil)
    fun (package, sourceFile, declarations, ()) => { package, sourceFile, declarations }

/-- Imports. -/
def importCodec : Codec Import :=
  record "Import"
    (required "type_name" text Import.typeName <|
     required "import_file_name" text Import.file <|
     required "is_interface" flag Import.isProtocol <|
     .nil)
    fun (typeName, file, isProtocol, ()) => { typeName, file, isProtocol }

/-- Sets of imports, which are put in order. -/
def importSet : Codec (List Import) where
  read site json := ((list importCodec).read site json).map (Ascending.ofList Import.before)
  write := (list importCodec).write

/-- Dependencies. -/
def dependencies : Codec Dependencies :=
  record "HeaderDependencies"
    (required "forward_declarations" importSet Dependencies.forward <|
     required "super_types" importSet Dependencies.superTypes <|
     .nil)
    fun (forward, superTypes, ()) => { forward, superTypes }

/-- How many levels of arrays and objects a text may have. -/
def maxLevels : Nat := 127

/-- Reads a value that is the whole of a document. Faults inside the value come before anything that
follows it. -/
def Codec.readDocument (codec : Codec α) (document : Json.Document) : Except Fault α := do
  let value ← codec.read ⟨false, maxLevels⟩ document.value
  if document.isComplete then pure value else .error .malformed

/-- Reads a text. -/
def Codec.parse (codec : Codec α) (text : String) : Except Fault α :=
  codec.readDocument (Json.parse text)

/-- Writes a text. -/
def Codec.print (codec : Codec α) (value : α) : String := (codec.write value).print

end HeaderForge.Manifest
