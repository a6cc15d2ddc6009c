import HeaderForge.Proofs.Dependencies
import HeaderForge.Proofs.Paths.Headers

/-!
# Includes and header paths

A header is included by the path that is made from the package and the name of a type, and written to
the path that is made from that of its source file. Where source files stand in the folders of their
packages, both paths are the same, for a top-level type and for all types nested in it.
-/

namespace HeaderForge

open HeaderForge.Path HeaderForge.CommandLine

namespace Text

variable {mark : Char}

/-- What follows the character does not matter before its first occurrence. -/
theorem beforeFirst_append_singleton_append (first second : String) :
    beforeFirst mark (first ++ String.singleton mark ++ second) = beforeFirst mark first := by
  unfold beforeFirst
  rw [split_append_singleton_append]
  cases split_eq : split mark first with
  | nil => exact absurd split_eq (split_ne_nil mark first)
  | cons part rest => rfl

theorem not_mem_beforeFirst (mark : Char) (text : String) :
    mark ∉ (beforeFirst mark text).toList := by
  unfold beforeFirst
  cases split_eq : split mark text with
  | nil => exact absurd split_eq (split_ne_nil mark text)
  | cons part rest =>
      have part_mem : part ∈ split mark text := split_eq ▸ List.mem_cons_self
      exact not_mem_of_mem_split part_mem

end Text

namespace Path

/-- The stem of a name with one dot is what stands before it. -/
theorem stemOf_append_dot_append {stem extension : String} (nonempty : stem ≠ "")
    (stem_whole : '.' ∉ stem.toList) (extension_whole : '.' ∉ extension.toList) :
    stemOf (stem ++ "." ++ extension) = stem := by
  have split_eq : Text.split '.' (stem ++ "." ++ extension) = [stem, extension] := by
    have joined : Text.split '.' (stem ++ String.singleton '.' ++ extension) = _ :=
      Text.split_append_singleton_append stem extension
    rwa [Text.split_of_not_mem stem_whole, Text.split_of_not_mem extension_whole] at joined
  simp [stemOf, split_eq, nonempty]

theorem names_injective : Function.Injective names := by
  intro first second same
  rw [← intercalate_names first, same, intercalate_names]

/-- A path is begun by nothing, or by a folder and a slash. -/
def Begins (start : String) : Prop := start = "" ∨ ∃ folder, start = folder ++ "/"

theorem Begins.exists_names {start : String} (begins : Begins start) :
    ∃ before, ∀ file : String, '/' ∉ file.toList → names (start ++ file) = before ++ [file] := by
  rcases begins with rfl | ⟨folder, rfl⟩
  · refine ⟨[], fun file flat => ?_⟩
    rw [String.empty_append]
    exact Text.split_of_not_mem flat
  · refine ⟨names folder, fun file flat => ?_⟩
    rw [names_append_slash_append]
    exact congrArg (names folder ++ ·) (Text.split_of_not_mem flat)

/-- The extension of a file without other dots in its name is replaced, and nothing else. -/
theorem withExtension_append {start stem old extension : String} (begins : Begins start)
    (nonempty : stem ≠ "") (stem_flat : '/' ∉ stem.toList) (stem_whole : '.' ∉ stem.toList)
    (old_flat : '/' ∉ old.toList) (old_whole : '.' ∉ old.toList) (old_nonempty : old ≠ "")
    (flat : '/' ∉ extension.toList) :
    withExtension extension (start ++ (stem ++ "." ++ old)) = start ++ (stem ++ "." ++ extension) := by
  obtain ⟨before, names_eq⟩ := begins.exists_names
  have stem_eq : stemOf (stem ++ "." ++ old) = stem :=
    stemOf_append_dot_append nonempty stem_whole old_whole
  have no_dots : endsInDots (start ++ (stem ++ "." ++ old)) (stem ++ "." ++ old) = false := by
    have not_dot : stem ≠ "." := by
      rintro rfl
      exact stem_whole (by decide)
    simp [endsInDots, stem_eq, not_dot]
  have long : 3 ≤ (stem ++ "." ++ old).toList.length := by
    have stem_pos : 0 < stem.toList.length := List.length_pos_iff.mpr (by simpa using nonempty)
    have old_pos : 0 < old.toList.length := List.length_pos_iff.mpr (by simpa using old_nonempty)
    have dot_length : ".".toList.length = 1 := rfl
    simp only [String.toList_append, List.length_append]
    omega
  have found : fileName? (start ++ (stem ++ "." ++ old)) = some (before, stem ++ "." ++ old) :=
    fileName?_of_names (names_eq _ (by simp [stem_flat, old_flat])) (not_idle_of_length long).1
      (not_idle_of_length long).2
  apply names_injective
  rw [names_withExtension found flat, names_eq _ (by simp [stem_flat, flat]), lastWithExtension,
    no_dots, stem_eq]
  rfl

end Path

/-- The folder of a package, and a slash; nothing for the package without a name. -/
def packageFolder (package : String) : String :=
  if package = "" then "" else Text.replaceChar '.' '/' package ++ "/"

/-- The path of the source file that declares a top-level type of a package. -/
def sourcePath (package topLevel : String) : String :=
  packageFolder package ++ (topLevel ++ "." ++ "java")

theorem packageFolder_begins (package : String) : Begins (packageFolder package) := by
  unfold packageFolder
  split
  · exact .inl rfl
  · exact .inr ⟨_, rfl⟩

theorem Import.fileOf_eq (type : TypeRef) :
    fileOf type = packageFolder type.package ++ type.topLevelName := by
  unfold fileOf packageFolder
  split
  · rw [String.empty_append]
  · rfl

/-- The header of a source file in the folder of its package lies there too. -/
theorem SourceUnit.headerPath_of_located {unit : SourceUnit} {package topLevel : String}
    (filled : topLevel ≠ "") (flat : '/' ∉ topLevel.toList) (whole : '.' ∉ topLevel.toList)
    (located : unit.sourceFile = sourcePath package topLevel) :
    unit.headerPath = packageFolder package ++ (topLevel ++ "." ++ "h") := by
  rw [headerPath, located, sourcePath]
  exact withExtension_append (packageFolder_begins package) filled flat whole (by decide) (by decide)
    (by decide) (by decide)

/-- The declared type is the other type, or is nested in it at some depth. -/
structure TypeRef.LiesWithin (type outer : TypeRef) : Prop where
  /-- Is a class, interface, enum or annotation type. -/
  declared : type.sort?.isSome = true
  /-- Has the same package. -/
  same_package : type.package = outer.package
  /-- Has the other's name, perhaps with those of nested types behind it. -/
  extends_name : type.name = outer.name ∨ ∃ inner, type.name = outer.name ++ "." ++ inner

theorem TypeRef.LiesWithin.fileOf_eq {type outer : TypeRef} (within : type.LiesWithin outer) :
    Import.fileOf type = Import.fileOf outer := by
  have same_topLevel : type.topLevelName = outer.topLevelName := by
    rcases within.extends_name with same | ⟨inner, nested⟩
    · rw [topLevelName, same, topLevelName]
    · rw [topLevelName, nested]
      exact Text.beforeFirst_append_singleton_append outer.name inner
  rw [Import.fileOf_eq, Import.fileOf_eq, within.same_package, same_topLevel]

/-- The collector makes no other import for a declared type than the one that names it. -/
theorem Import.eq_ofDeclared_of_collected {naming : Naming} {type : TypeRef} {entry : Import}
    (declared : type.sort?.isSome = true)
    (collected : ofReference naming type = some entry ∨ ofSuperType naming type = some entry) :
    entry = ofDeclared naming type := by
  rcases collected with referred | extended
  · cases (ofReference_eq_some_iff naming type entry).mp referred with
    | array package name element => cases declared
    | declared unmapped => rfl
  · exact ((ofSuperType_eq_some_iff naming type entry).mp extended).2

/-- A source file called like a top-level type, in the folder of its package, has its header where
imports of the type and of nested ones say. -/
theorem Import.includeStatement_eq_headerPath {outer : TypeRef} {unit : SourceUnit}
    (filled : outer.topLevelName ≠ "") (flat : '/' ∉ outer.topLevelName.toList)
    (located : unit.sourceFile = sourcePath outer.package outer.topLevelName) (naming : Naming)
    {type : TypeRef} (within : type.LiesWithin outer) :
    (ofDeclared naming type).includeStatement = "#include \"" ++ unit.headerPath ++ "\"" ∧
      (∀ entry, ofReference naming type = some entry ∨ ofSuperType naming type = some entry →
        entry.includeStatement = "#include \"" ++ unit.headerPath ++ "\"") ∧
      ∀ (command : EmitCommand) (folder path text : String),
        command.deliver unit = .ok (.file folder path text) →
          (ofDeclared naming type).includeStatement = "#include \"" ++ path ++ "\"" := by
  have whole : '.' ∉ outer.topLevelName.toList := Text.not_mem_beforeFirst '.' outer.name
  have header_eq : unit.headerPath = fileOf outer ++ ".h" := by
    rw [SourceUnit.headerPath_of_located filled flat whole located, fileOf_eq]
    simp only [String.append_assoc]
    rfl
  have include_eq : (ofDeclared naming type).includeStatement =
      "#include \"" ++ unit.headerPath ++ "\"" := by
    rw [header_eq, ← within.fileOf_eq]
    simp only [includeStatement, ofDeclared, String.append_assoc]
    rfl
  refine ⟨include_eq, fun entry collected => ?_, fun command folder path text delivered => ?_⟩
  · rw [eq_ofDeclared_of_collected within.declared collected, include_eq]
  · rw [(EmitCommand.staysInside_of_deliver delivered).1, include_eq]

/-- A unit without declarations in the folder of a package. -/
def orderUnit : SourceUnit where
  package := "shop.cart"
  sourceFile := "shop/cart/Order.java"

/-- A type nested in the type of the source file. -/
def orderLine : TypeRef := .declared "shop.cart" "Order.Line" .classType

/-- The kind of an order's line, a type nested two levels deep. -/
def orderLineKind : TypeRef := .declared "shop.cart" "Order.Line.Kind" .enumType

theorem Import.includeStatement_eq_headerPath_of_order :
    orderLineKind.LiesWithin orderLine ∧
      (ofDeclared { prefixes := [⟨"shop.cart", "SC"⟩] } orderLineKind).includeStatement =
        "#include \"shop/cart/Order.h\"" ∧
      orderUnit.headerPath = "shop/cart/Order.h" := by
  have within : orderLineKind.LiesWithin orderLine :=
    ⟨rfl, rfl, .inr ⟨"Kind", by decide⟩⟩
  have header_eq : orderUnit.headerPath = "shop/cart/Order.h" := by decide
  have located : orderUnit.sourceFile = sourcePath orderLine.package orderLine.topLevelName := by
    decide
  obtain ⟨include_eq, -, -⟩ := includeStatement_eq_headerPath (by decide) (by decide) located
    { prefixes := [⟨"shop.cart", "SC"⟩] } within
  refine ⟨within, ?_, header_eq⟩
  rw [include_eq, header_eq]
  decide

end HeaderForge
