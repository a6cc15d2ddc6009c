import HeaderForge.Header.Unit
import HeaderForge.Proofs.Ascending
import HeaderForge.Proofs.Characters

/-!
# Clean words

Words without line feeds and without the characters that begin a directive. Names made of clean words
are clean.
-/

namespace HeaderForge

/-- The character neither ends a line nor begins a directive. -/
def IsCleanChar (c : Char) : Prop := c ≠ '\n' ∧ c ≠ '@' ∧ c ≠ '#'

instance : DecidablePred IsCleanChar := fun c =>
  inferInstanceAs (Decidable (c ≠ '\n' ∧ c ≠ '@' ∧ c ≠ '#'))

/-- All characters of the text are clean. -/
def Clean (text : String) : Prop := ∀ c ∈ text.toList, IsCleanChar c

instance : DecidablePred Clean := fun text => List.decidableBAll IsCleanChar text.toList

/-! ## The words of a unit -/

/-- The packages and names of the type, and of those that it refers to. -/
def TypeRef.words : TypeRef → List String
  | primitive package name _ => [package, name]
  | declared package name _ => [package, name]
  | array package name element => package :: name :: element.words
  | unbounded package name => [package, name]
  | bounded package name bound => package :: name :: bound.words

/-- The name of the variable, and the words of its type. -/
def Variable.words (var : Variable) : List String := var.name :: var.type.words

/-- The words of the type of the field, and of its variables. -/
def Field.words (field : Field) : List String :=
  field.type.words ++ field.fragments.flatMap Variable.words

/-- The name of the parameter, and the words of its type. -/
def Parameter.words (parameter : Parameter) : List String :=
  parameter.name :: parameter.type.words

/-- The name of the method, its selector, and the words of its types and parameters. -/
def Signature.words (signature : Signature) : List String :=
  signature.name :: signature.mappedSelector.toList ++ signature.returnType.words
    ++ signature.parameters.flatMap Parameter.words

/-- The words of the method, and the names of its annotations. -/
def Method.words (method : Method) : List String :=
  method.signature.words ++ method.annotations.map AnnotationUse.typeName

/-- The words of the declaration. -/
def TypeDeclaration.words (declaration : TypeDeclaration) : List String :=
  declaration.type.words
    ++ (declaration.superclass.toList ++ declaration.interfaces).flatMap TypeRef.words
    ++ declaration.annotations.map AnnotationUse.typeName
    ++ declaration.fields.flatMap Field.words ++ declaration.methods.flatMap Method.words

/-- The names of the constant and its variable, and the words of its type. -/
def EnumConstant.words (constant : EnumConstant) : List String :=
  constant.name :: constant.storage.words

/-- The words of the declaration. -/
def EnumDeclaration.words (declaration : EnumDeclaration) : List String :=
  declaration.type.words ++ declaration.interfaces.flatMap TypeRef.words
    ++ declaration.annotations.map AnnotationUse.typeName
    ++ declaration.constants.flatMap EnumConstant.words
    ++ declaration.fields.flatMap Field.words ++ declaration.methods.flatMap Method.words

/-- The name of the member, and the words of its type. -/
def AnnotationMember.words (member : AnnotationMember) : List String :=
  member.name :: member.type.words

/-- The words of the declaration. -/
def AnnotationDeclaration.words (declaration : AnnotationDeclaration) : List String :=
  declaration.type.words ++ declaration.annotations.map AnnotationUse.typeName
    ++ declaration.members.flatMap AnnotationMember.words
    ++ declaration.fields.flatMap Field.words ++ declaration.methods.flatMap Method.words

/-- The words of the declaration. -/
def Declaration.words : Declaration → List String
  | ofType declaration => declaration.words
  | ofEnum declaration => declaration.words
  | ofAnnotationType declaration => declaration.words

/-- The package and path of the unit, and the words of its declarations. -/
def SourceUnit.words (unit : SourceUnit) : List String :=
  unit.package :: unit.sourceFile :: unit.declarations.flatMap Declaration.words

/-- The packages with short names, and these. -/
def Naming.words (naming : Naming) : List String :=
  naming.prefixes.flatMap fun entry => [entry.package, entry.short]

/-- All words of the list are clean. -/
def AllClean (words : List String) : Prop := ∀ word ∈ words, Clean word

instance : DecidablePred AllClean := fun words => List.decidableBAll Clean words

@[simp] theorem allClean_nil : AllClean [] := by simp [AllClean]

@[simp] theorem allClean_cons (word : String) (rest : List String) :
    AllClean (word :: rest) ↔ Clean word ∧ AllClean rest :=
  List.forall_mem_cons

@[simp] theorem allClean_append (first second : List String) :
    AllClean (first ++ second) ↔ AllClean first ∧ AllClean second :=
  List.forall_mem_append

theorem AllClean.of_mem_flatMap {values : List α} {words : α → List String}
    (clean : AllClean (values.flatMap words)) {value : α} (value_mem : value ∈ values) :
    AllClean (words value) :=
  fun word word_mem => clean word (List.mem_flatMap_of_mem value_mem word_mem)

/-! ## Words of parts -/

theorem allClean_signature_iff (signature : Signature) :
    AllClean signature.words ↔
      Clean signature.name ∧ AllClean signature.mappedSelector.toList ∧
        AllClean signature.returnType.words ∧
        AllClean (signature.parameters.flatMap Parameter.words) := by
  simp [Signature.words]

theorem allClean_parameter_of_mem {parameters : List Parameter} {parameter : Parameter}
    (clean : AllClean (parameters.flatMap Parameter.words)) (parameter_mem : parameter ∈ parameters) :
    Clean parameter.name ∧ AllClean parameter.type.words := by
  have parameter_clean := clean.of_mem_flatMap parameter_mem
  simpa [Parameter.words] using parameter_clean

theorem allClean_constant_of_mem {constants : List EnumConstant} {constant : EnumConstant}
    (clean : AllClean (constants.flatMap EnumConstant.words)) (constant_mem : constant ∈ constants) :
    Clean constant.name ∧ AllClean constant.storage.words := by
  have constant_clean := clean.of_mem_flatMap constant_mem
  simpa [EnumConstant.words] using constant_clean

theorem allClean_member_of_mem {members : List AnnotationMember} {member : AnnotationMember}
    (clean : AllClean (members.flatMap AnnotationMember.words)) (member_mem : member ∈ members) :
    Clean member.name ∧ AllClean member.type.words := by
  have member_clean := clean.of_mem_flatMap member_mem
  simpa [AnnotationMember.words] using member_clean

theorem allClean_typeDeclaration_iff (declaration : TypeDeclaration) :
    AllClean declaration.words ↔
      AllClean declaration.type.words ∧
        AllClean (declaration.superclass.toList.flatMap TypeRef.words) ∧
        AllClean (declaration.interfaces.flatMap TypeRef.words) ∧
        AllClean (declaration.annotations.map AnnotationUse.typeName) ∧
        AllClean (declaration.fields.flatMap Field.words) ∧
        AllClean (declaration.methods.flatMap Method.words) := by
  simp [TypeDeclaration.words]

theorem allClean_enumDeclaration_iff (declaration : EnumDeclaration) :
    AllClean declaration.words ↔
      AllClean declaration.type.words ∧ AllClean (declaration.interfaces.flatMap TypeRef.words) ∧
        AllClean (declaration.annotations.map AnnotationUse.typeName) ∧
        AllClean (declaration.constants.flatMap EnumConstant.words) ∧
        AllClean (declaration.fields.flatMap Field.words) ∧
        AllClean (declaration.methods.flatMap Method.words) := by
  simp [EnumDeclaration.words]

theorem allClean_annotationDeclaration_iff (declaration : AnnotationDeclaration) :
    AllClean declaration.words ↔
      AllClean declaration.type.words ∧
        AllClean (declaration.annotations.map AnnotationUse.typeName) ∧
        AllClean (declaration.members.flatMap AnnotationMember.words) ∧
        AllClean (declaration.fields.flatMap Field.words) ∧
        AllClean (declaration.methods.flatMap Method.words) := by
  simp [AnnotationDeclaration.words]

theorem allClean_declaration {declaration : Declaration} (clean : AllClean declaration.words) :
    AllClean declaration.type.words ∧ AllClean (declaration.fields.flatMap Field.words) ∧
      AllClean (declaration.methods.flatMap Method.words) := by
  cases declaration with
  | ofType declaration =>
      obtain ⟨type_clean, -, -, -, fields_clean, methods_clean⟩ :=
        (allClean_typeDeclaration_iff declaration).mp clean
      exact ⟨type_clean, fields_clean, methods_clean⟩
  | ofEnum declaration =>
      obtain ⟨type_clean, -, -, -, fields_clean, methods_clean⟩ :=
        (allClean_enumDeclaration_iff declaration).mp clean
      exact ⟨type_clean, fields_clean, methods_clean⟩
  | ofAnnotationType declaration =>
      obtain ⟨type_clean, -, -, fields_clean, methods_clean⟩ :=
        (allClean_annotationDeclaration_iff declaration).mp clean
      exact ⟨type_clean, fields_clean, methods_clean⟩

theorem allClean_of_declared {unit : SourceUnit} {declaration : Declaration}
    (clean : AllClean unit.words) (declared : declaration ∈ unit.declarations) :
    AllClean declaration.words := by
  simp only [SourceUnit.words, allClean_cons] at clean
  exact clean.2.2.of_mem_flatMap declared

theorem allClean_signature_of_mem {methods : List Method} {method : Method}
    (clean : AllClean (methods.flatMap Method.words)) (method_mem : method ∈ methods) :
    AllClean method.signature.words := by
  have method_clean := clean.of_mem_flatMap method_mem
  simp only [Method.words, allClean_append] at method_clean
  exact method_clean.1

theorem allClean_field_of_mem {fields : List Field} {field : Field}
    (clean : AllClean (fields.flatMap Field.words)) (field_mem : field ∈ fields) :
    AllClean field.type.words ∧ ∀ var ∈ field.fragments, AllClean var.words := by
  have field_clean := clean.of_mem_flatMap field_mem
  simp only [Field.words, allClean_append] at field_clean
  exact ⟨field_clean.1, fun var var_mem => field_clean.2.of_mem_flatMap var_mem⟩

theorem allClean_of_mem_fragmentsOf {fields : List Field} {var : Variable}
    (clean : AllClean (fields.flatMap Field.words)) (var_mem : var ∈ fragmentsOf fields) :
    AllClean var.words := by
  obtain ⟨field, field_mem, var_mem⟩ := List.mem_flatMap.mp var_mem
  exact (allClean_field_of_mem clean field_mem).2 var var_mem

/-! ## Parts and joins of texts -/

@[simp] theorem clean_append (first second : String) :
    Clean (first ++ second) ↔ Clean first ∧ Clean second :=
  Text.madeOf_append first second

theorem clean_ofList_iff (chars : List Char) :
    Clean (String.ofList chars) ↔ ∀ c ∈ chars, IsCleanChar c :=
  Text.madeOf_ofList_iff chars

theorem clean_intercalate {separator : String} {texts : List String}
    (separator_clean : Clean separator) (clean : AllClean texts) :
    Clean (separator.intercalate texts) := by
  induction texts with
  | nil => simp [Clean]
  | cons text rest ih =>
      rw [allClean_cons] at clean
      cases rest with
      | nil => simpa using clean.1
      | cons next rest =>
          rw [String.intercalate_cons_cons, clean_append, clean_append]
          exact ⟨⟨clean.1, separator_clean⟩, ih clean.2⟩

theorem clean_split {text : String} (mark : Char) (clean : Clean text) :
    AllClean (Text.split mark text) :=
  Text.madeOf_split mark clean

theorem clean_beforeFirst {text : String} (mark : Char) (clean : Clean text) :
    Clean (Text.beforeFirst mark text) := by
  rw [Text.beforeFirst]
  cases first_eq : (Text.split mark text).head? with
  | none => exact clean
  | some first => exact clean_split mark clean first (List.mem_of_head? first_eq)

theorem clean_replaceChar {text : String} (old new : Char) (new_clean : IsCleanChar new)
    (clean : Clean text) : Clean (Text.replaceChar old new text) :=
  Text.madeOf_replaceChar old new new_clean clean

theorem clean_trimEnd {text : String} (mark : Char) (clean : Clean text) :
    Clean (Text.trimEnd mark text) := by
  rw [Text.trimEnd, clean_ofList_iff]
  intro c c_mem
  have c_kept := (List.dropWhile_suffix _).subset (List.mem_reverse.mp c_mem)
  exact clean c (List.mem_reverse.mp c_kept)

theorem clean_dropEnding {text : String} (ending : String) (clean : Clean text) :
    Clean (Text.dropEnding ending text) := by
  rw [Text.dropEnding]
  split
  · rw [clean_ofList_iff]
    exact fun c c_mem => clean c (List.mem_of_mem_take c_mem)
  · exact clean

/-! ## Capital letters -/

/-- All characters that are not clean come before the letters. -/
theorem hasLetters_isCleanChar : Text.HasLetters IsCleanChar := by
  refine Text.hasLetters_of_high (by decide) fun c high => ⟨?_, ?_, ?_⟩ <;>
    · rintro rfl
      exact absurd high (by decide)

theorem clean_capitalize {text : String} (clean : Clean text) : Clean (Text.capitalize text) :=
  Text.madeOf_capitalize hasLetters_isCleanChar clean

theorem clean_camelCase {text : String} (clean : Clean text) : Clean (Text.camelCase text) :=
  Text.madeOf_camelCase hasLetters_isCleanChar clean

end HeaderForge
