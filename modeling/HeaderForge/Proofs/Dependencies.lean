import HeaderForge.Import
import HeaderForge.Proofs.Ascending

/-!
# What a header depends on

A unit includes the headers of the types that its declarations extend or adopt, and declares the other
types that it mentions to exist. Both are sets: neither the order of what is collected nor its
repetition matters.
-/

namespace HeaderForge

/-! ## The sets -/

/-- The imports of what the declarations of a unit extend or adopt. -/
inductive SuperTypeImport (naming : Naming) (unit : SourceUnit) : Import → Prop
  | superclass {declaration : TypeDeclaration} {type : TypeRef}
      (declared : .ofType declaration ∈ unit.declarations)
      (extended : declaration.superclass = some type)
      (unmapped : Foundation.isMapped type.qualifiedName = false) :
      SuperTypeImport naming unit (.ofDeclared naming type)
  | interface {declaration : TypeDeclaration} {type : TypeRef}
      (declared : .ofType declaration ∈ unit.declarations)
      (adopted : type ∈ declaration.interfaces)
      (unmapped : Foundation.isMapped type.qualifiedName = false) :
      SuperTypeImport naming unit (.ofDeclared naming type)
  | enumInterface {declaration : EnumDeclaration} {type : TypeRef}
      (declared : .ofEnum declaration ∈ unit.declarations)
      (adopted : type ∈ declaration.interfaces)
      (unmapped : Foundation.isMapped type.qualifiedName = false) :
      SuperTypeImport naming unit (.ofDeclared naming type)
  | enumBase {declaration : EnumDeclaration}
      (declared : .ofEnum declaration ∈ unit.declarations) :
      SuperTypeImport naming unit Import.enumBase
  | annotationProtocol {declaration : AnnotationDeclaration}
      (declared : .ofAnnotationType declaration ∈ unit.declarations) :
      SuperTypeImport naming unit Import.annotationProtocol

/-- The types of the fields, methods, parameters and annotation members of a unit. -/
inductive MentionedType (unit : SourceUnit) : TypeRef → Prop
  | field {declaration : Declaration} {field : Field}
      (declared : declaration ∈ unit.declarations) (field_mem : field ∈ declaration.fields) :
      MentionedType unit field.type
  | result {declaration : Declaration} {method : Method}
      (declared : declaration ∈ unit.declarations) (method_mem : method ∈ declaration.methods) :
      MentionedType unit method.signature.returnType
  | parameter {declaration : Declaration} {method : Method} {parameter : Parameter}
      (declared : declaration ∈ unit.declarations) (method_mem : method ∈ declaration.methods)
      (parameter_mem : parameter ∈ method.signature.parameters) :
      MentionedType unit parameter.type
  | member {declaration : AnnotationDeclaration} {member : AnnotationMember}
      (declared : .ofAnnotationType declaration ∈ unit.declarations)
      (member_mem : member ∈ declaration.members) :
      MentionedType unit member.type

/-- The import that a mention of a type needs. -/
inductive ReferenceImport (naming : Naming) : TypeRef → Import → Prop
  | array (package name : String) (element : TypeRef) :
      ReferenceImport naming (.array package name element)
        (.ofLibraryClass (Naming.arrayClass element))
  | declared {package name : String} {sort : TypeSort}
      (unmapped : Foundation.isMapped (TypeRef.declared package name sort).qualifiedName = false) :
      ReferenceImport naming (.declared package name sort)
        (.ofDeclared naming (.declared package name sort))

/-- The imports of what a unit mentions. The class of an enum also mentions arrays of objects. -/
inductive MentionedImport (naming : Naming) (unit : SourceUnit) : Import → Prop
  | reference {type : TypeRef} {entry : Import} (mentioned : MentionedType unit type)
      (needed : ReferenceImport naming type entry) : MentionedImport naming unit entry
  | objectArray {declaration : EnumDeclaration}
      (declared : .ofEnum declaration ∈ unit.declarations) :
      MentionedImport naming unit (.ofLibraryClass SupportLibrary.objectArray)

/-! ## Collection -/

theorem Import.before_isOrder : Ascending.IsOrder Import.before := by
  have key_order := Ascending.lexicographic_isOrder Ascending.textBefore_isOrder
    (Ascending.lexicographic_isOrder Ascending.textBefore_isOrder Ascending.boolBefore_isOrder)
  have key_injective : Function.Injective
      fun entry : Import => (entry.typeName, entry.file, entry.isProtocol) := by
    rintro ⟨typeName, file, isProtocol⟩ ⟨_, _, _⟩ same
    cases same
    rfl
  exact key_order.comap key_injective

theorem ofSuperType_eq_some_iff (naming : Naming) (type : TypeRef) (entry : Import) :
    Import.ofSuperType naming type = some entry ↔
      Foundation.isMapped type.qualifiedName = false ∧ entry = .ofDeclared naming type := by
  unfold Import.ofSuperType
  cases Foundation.isMapped type.qualifiedName <;> simp [eq_comm]

theorem ofReference_eq_some_iff (naming : Naming) (type : TypeRef) (entry : Import) :
    Import.ofReference naming type = some entry ↔ ReferenceImport naming type entry := by
  constructor
  · intro found
    cases type with
    | primitive package name type => cases found
    | unbounded package name => cases found
    | bounded package name bound => cases found
    | array package name element =>
        cases found
        exact .array package name element
    | declared package name sort =>
        unfold Import.ofReference at found
        split_ifs at found with mapped
        cases found
        exact .declared (Bool.not_eq_true _ ▸ mapped)
  · intro needed
    cases needed with
    | array package name element => rfl
    | declared unmapped => simp [Import.ofReference, unmapped]

theorem mem_superTypeImports_iff (naming : Naming) (unit : SourceUnit) (entry : Import) :
    entry ∈ unit.declarations.flatMap (Declaration.superTypeImports naming) ↔
      SuperTypeImport naming unit entry := by
  rw [List.mem_flatMap]
  constructor
  · rintro ⟨declaration, declared, entry_mem⟩
    cases declaration with
    | ofType declaration =>
        obtain ⟨type, type_mem, found⟩ := List.mem_filterMap.mp entry_mem
        obtain ⟨unmapped, rfl⟩ := (ofSuperType_eq_some_iff naming type entry).mp found
        rcases List.mem_append.mp type_mem with extended | adopted
        · exact .superclass declared (Option.mem_toList.mp extended) unmapped
        · exact .interface declared adopted unmapped
    | ofEnum declaration =>
        rcases List.mem_cons.mp entry_mem with rfl | entry_mem
        · exact .enumBase declared
        · obtain ⟨type, adopted, found⟩ := List.mem_filterMap.mp entry_mem
          obtain ⟨unmapped, rfl⟩ := (ofSuperType_eq_some_iff naming type entry).mp found
          exact .enumInterface declared adopted unmapped
    | ofAnnotationType declaration =>
        obtain rfl := List.mem_singleton.mp entry_mem
        exact .annotationProtocol declared
  · intro collected
    cases collected with
    | @superclass declaration type declared extended unmapped =>
        have type_mem : type ∈ declaration.superclass.toList ++ declaration.interfaces :=
          List.mem_append_left _ (Option.mem_toList.mpr extended)
        refine ⟨_, declared, List.mem_filterMap.mpr ⟨type, type_mem, ?_⟩⟩
        exact (ofSuperType_eq_some_iff naming type _).mpr ⟨unmapped, rfl⟩
    | interface declared adopted unmapped =>
        refine ⟨_, declared, List.mem_filterMap.mpr ⟨_, List.mem_append_right _ adopted, ?_⟩⟩
        exact (ofSuperType_eq_some_iff naming _ _).mpr ⟨unmapped, rfl⟩
    | enumInterface declared adopted unmapped =>
        refine ⟨_, declared, List.mem_cons_of_mem _ (List.mem_filterMap.mpr ⟨_, adopted, ?_⟩)⟩
        exact (ofSuperType_eq_some_iff naming _ _).mpr ⟨unmapped, rfl⟩
    | enumBase declared => exact ⟨_, declared, List.mem_cons_self⟩
    | annotationProtocol declared => exact ⟨_, declared, List.mem_singleton_self _⟩

theorem mem_signatureTypes_iff (signature : Signature) (type : TypeRef) :
    type ∈ Declaration.signatureTypes signature ↔
      type = signature.returnType ∨ ∃ parameter ∈ signature.parameters, parameter.type = type := by
  rw [Declaration.signatureTypes, List.mem_cons, List.mem_map]

theorem mem_mentionedTypes_iff (unit : SourceUnit) (type : TypeRef) :
    (∃ declaration ∈ unit.declarations, type ∈ declaration.mentionedTypes) ↔
      MentionedType unit type := by
  constructor
  · rintro ⟨declaration, declared, type_mem⟩
    simp only [Declaration.mentionedTypes, List.mem_append, List.mem_map, List.mem_flatMap,
      mem_signatureTypes_iff] at type_mem
    rcases type_mem with (member_mem | ⟨field, field_mem, rfl⟩) | ⟨method, method_mem, signature⟩
    · cases declaration with
      | ofType declaration => cases member_mem
      | ofEnum declaration => cases member_mem
      | ofAnnotationType declaration =>
          obtain ⟨member, declared_mem, rfl⟩ := List.mem_map.mp member_mem
          exact .member declared declared_mem
    · exact .field declared field_mem
    · rcases signature with rfl | ⟨parameter, parameter_mem, rfl⟩
      · exact .result declared method_mem
      · exact .parameter declared method_mem parameter_mem
  · intro mentioned
    cases mentioned with
    | field declared field_mem =>
        refine ⟨_, declared, ?_⟩
        simp only [Declaration.mentionedTypes, List.mem_append, List.mem_map]
        exact Or.inl (Or.inr ⟨_, field_mem, rfl⟩)
    | result declared method_mem =>
        refine ⟨_, declared, ?_⟩
        simp only [Declaration.mentionedTypes, List.mem_append, List.mem_flatMap,
          mem_signatureTypes_iff]
        exact Or.inr ⟨_, method_mem, Or.inl rfl⟩
    | parameter declared method_mem parameter_mem =>
        refine ⟨_, declared, ?_⟩
        simp only [Declaration.mentionedTypes, List.mem_append, List.mem_flatMap,
          mem_signatureTypes_iff]
        exact Or.inr ⟨_, method_mem, Or.inr ⟨_, parameter_mem, rfl⟩⟩
    | member declared member_mem =>
        refine ⟨_, declared, ?_⟩
        simp only [Declaration.mentionedTypes, List.mem_append, List.mem_map]
        exact Or.inl (Or.inl ⟨_, member_mem, rfl⟩)

theorem mem_mentionedImports_iff (naming : Naming) (unit : SourceUnit) (entry : Import) :
    entry ∈ unit.declarations.flatMap (Declaration.mentionedImports naming) ↔
      MentionedImport naming unit entry := by
  rw [List.mem_flatMap]
  constructor
  · rintro ⟨declaration, declared, entry_mem⟩
    rcases List.mem_append.mp entry_mem with entry_mem | entry_mem
    · cases declaration with
      | ofType declaration => cases entry_mem
      | ofAnnotationType declaration => cases entry_mem
      | ofEnum declaration =>
          obtain rfl := List.mem_singleton.mp entry_mem
          exact .objectArray declared
    · obtain ⟨type, type_mem, found⟩ := List.mem_filterMap.mp entry_mem
      exact .reference ((mem_mentionedTypes_iff unit type).mp ⟨declaration, declared, type_mem⟩)
        ((ofReference_eq_some_iff naming type entry).mp found)
  · intro collected
    cases collected with
    | reference mentioned needed =>
        obtain ⟨declaration, declared, type_mem⟩ := (mem_mentionedTypes_iff unit _).mpr mentioned
        refine ⟨declaration, declared, List.mem_append_right _ ?_⟩
        exact List.mem_filterMap.mpr
          ⟨_, type_mem, (ofReference_eq_some_iff naming _ entry).mpr needed⟩
    | objectArray declared =>
        exact ⟨_, declared, List.mem_append_left _ (List.mem_singleton_self _)⟩

namespace Dependencies

theorem superTypes_ascends (naming : Naming) (unit : SourceUnit) :
    Ascending.Ascends Import.before (collect naming unit).superTypes :=
  Ascending.ofList_ascends Import.before_isOrder _

theorem forward_ascends (naming : Naming) (unit : SourceUnit) :
    Ascending.Ascends Import.before (collect naming unit).forward :=
  (Ascending.ofList_ascends Import.before_isOrder _).filter _

theorem mem_superTypes_iff (naming : Naming) (unit : SourceUnit) (entry : Import) :
    entry ∈ (collect naming unit).superTypes ↔ SuperTypeImport naming unit entry := by
  rw [← mem_superTypeImports_iff]
  exact Ascending.mem_ofList

theorem mem_forward_iff (naming : Naming) (unit : SourceUnit) (entry : Import) :
    entry ∈ (collect naming unit).forward ↔
      MentionedImport naming unit entry ∧
        ∀ other, SuperTypeImport naming unit other → other.typeName ≠ entry.typeName := by
  rw [← mem_mentionedImports_iff]
  simp only [← mem_superTypes_iff]
  simp [collect]

/-- What is mentioned is declared to exist, unless a type of its name is included. -/
theorem mem_forward_or_included {naming : Naming} {unit : SourceUnit} {entry : Import}
    (mentioned : MentionedImport naming unit entry) :
    entry ∈ (collect naming unit).forward ∨
      ∃ included ∈ (collect naming unit).superTypes, included.typeName = entry.typeName := by
  by_cases included : ∃ included ∈ (collect naming unit).superTypes,
      included.typeName = entry.typeName
  · exact Or.inr included
  · refine Or.inl ((mem_forward_iff naming unit entry).mpr ⟨mentioned, ?_⟩)
    intro other collected same
    exact included ⟨other, (mem_superTypes_iff naming unit other).mpr collected, same⟩

end Dependencies

/-! ## Rearrangement -/

/-- Every element of either list is alike to one of the other. -/
def SameUpTo {α : Type*} (alike : α → α → Prop) (first second : List α) : Prop :=
  (∀ left ∈ first, ∃ right ∈ second, alike left right) ∧
    ∀ right ∈ second, ∃ left ∈ first, alike left right

/-- Lists with the same elements, in any order and number. -/
def SameElements {α : Type*} (first second : List α) : Prop :=
  ∀ value, value ∈ first ↔ value ∈ second

/-- Methods that differ in the order and repetition of parameters. -/
def Method.Rearranged (first second : Method) : Prop :=
  ∃ parameters, SameElements first.signature.parameters parameters ∧
    second = { first with signature := { first.signature with parameters } }

/-- Declarations of one form that differ in the order and repetition of interfaces, fields, methods,
parameters and members. -/
inductive Declaration.Rearranged : Declaration → Declaration → Prop
  | ofType {first second : TypeDeclaration} (superclass : first.superclass = second.superclass)
      (interfaces : SameElements first.interfaces second.interfaces)
      (fields : SameElements first.fields second.fields)
      (methods : SameUpTo Method.Rearranged first.methods second.methods) :
      Rearranged (.ofType first) (.ofType second)
  | ofEnum {first second : EnumDeclaration}
      (interfaces : SameElements first.interfaces second.interfaces)
      (fields : SameElements first.fields second.fields)
      (methods : SameUpTo Method.Rearranged first.methods second.methods) :
      Rearranged (.ofEnum first) (.ofEnum second)
  | ofAnnotationType {first second : AnnotationDeclaration}
      (members : SameElements first.members second.members)
      (fields : SameElements first.fields second.fields)
      (methods : SameUpTo Method.Rearranged first.methods second.methods) :
      Rearranged (.ofAnnotationType first) (.ofAnnotationType second)

/-- Units that differ in the order and repetition of declarations and of what they hold. -/
def SourceUnit.Rearranged (first second : SourceUnit) : Prop :=
  SameUpTo Declaration.Rearranged first.declarations second.declarations

theorem SameUpTo.symm {α : Type*} {alike : α → α → Prop} {first second : List α}
    (alike_symm : ∀ {left right}, alike left right → alike right left)
    (same : SameUpTo alike first second) : SameUpTo alike second first := by
  constructor
  · intro right right_mem
    obtain ⟨left, left_mem, left_alike⟩ := same.2 right right_mem
    exact ⟨left, left_mem, alike_symm left_alike⟩
  · intro left left_mem
    obtain ⟨right, right_mem, left_alike⟩ := same.1 left left_mem
    exact ⟨right, right_mem, alike_symm left_alike⟩

theorem SameElements.symm {α : Type*} {first second : List α}
    (same : SameElements first second) : SameElements second first :=
  fun value => (same value).symm

theorem Method.Rearranged.symm {first second : Method} (rearranged : first.Rearranged second) :
    second.Rearranged first := by
  obtain ⟨parameters, same, rfl⟩ := rearranged
  exact ⟨first.signature.parameters, same.symm, rfl⟩

theorem Declaration.Rearranged.symm {first second : Declaration}
    (rearranged : first.Rearranged second) : second.Rearranged first := by
  cases rearranged with
  | ofType superclass interfaces fields methods =>
      exact .ofType superclass.symm interfaces.symm fields.symm
        (methods.symm Method.Rearranged.symm)
  | ofEnum interfaces fields methods =>
      exact .ofEnum interfaces.symm fields.symm (methods.symm Method.Rearranged.symm)
  | ofAnnotationType members fields methods =>
      exact .ofAnnotationType members.symm fields.symm (methods.symm Method.Rearranged.symm)

theorem SourceUnit.Rearranged.symm {first second : SourceUnit}
    (rearranged : first.Rearranged second) : second.Rearranged first :=
  SameUpTo.symm Declaration.Rearranged.symm rearranged

theorem Declaration.Rearranged.fields {first second : Declaration}
    (rearranged : first.Rearranged second) : SameElements first.fields second.fields := by
  cases rearranged with
  | ofType superclass interfaces fields methods => exact fields
  | ofEnum interfaces fields methods => exact fields
  | ofAnnotationType members fields methods => exact fields

theorem Declaration.Rearranged.methods {first second : Declaration}
    (rearranged : first.Rearranged second) :
    SameUpTo Method.Rearranged first.methods second.methods := by
  cases rearranged with
  | ofType superclass interfaces fields methods => exact methods
  | ofEnum interfaces fields methods => exact methods
  | ofAnnotationType members fields methods => exact methods

theorem SuperTypeImport.rearrange {naming : Naming} {first second : SourceUnit} {entry : Import}
    (rearranged : first.Rearranged second) (collected : SuperTypeImport naming first entry) :
    SuperTypeImport naming second entry := by
  cases collected with
  | superclass declared extended unmapped =>
      obtain ⟨_, other_declared, alike⟩ := rearranged.1 _ declared
      cases alike with
      | ofType superclass interfaces fields methods =>
          exact .superclass other_declared (superclass ▸ extended) unmapped
  | interface declared adopted unmapped =>
      obtain ⟨_, other_declared, alike⟩ := rearranged.1 _ declared
      cases alike with
      | ofType superclass interfaces fields methods =>
          exact .interface other_declared ((interfaces _).mp adopted) unmapped
  | enumInterface declared adopted unmapped =>
      obtain ⟨_, other_declared, alike⟩ := rearranged.1 _ declared
      cases alike with
      | ofEnum interfaces fields methods =>
          exact .enumInterface other_declared ((interfaces _).mp adopted) unmapped
  | enumBase declared =>
      obtain ⟨_, other_declared, alike⟩ := rearranged.1 _ declared
      cases alike with
      | ofEnum interfaces fields methods => exact .enumBase other_declared
  | annotationProtocol declared =>
      obtain ⟨_, other_declared, alike⟩ := rearranged.1 _ declared
      cases alike with
      | ofAnnotationType members fields methods => exact .annotationProtocol other_declared

theorem MentionedType.rearrange {first second : SourceUnit} {type : TypeRef}
    (rearranged : first.Rearranged second) (mentioned : MentionedType first type) :
    MentionedType second type := by
  cases mentioned with
  | field declared field_mem =>
      obtain ⟨_, other_declared, alike⟩ := rearranged.1 _ declared
      exact .field other_declared ((alike.fields _).mp field_mem)
  | result declared method_mem =>
      obtain ⟨_, other_declared, alike⟩ := rearranged.1 _ declared
      obtain ⟨_, other_mem, parameters, same, rfl⟩ := alike.methods.1 _ method_mem
      have mentioned := MentionedType.result other_declared other_mem
      exact mentioned
  | parameter declared method_mem parameter_mem =>
      obtain ⟨_, other_declared, alike⟩ := rearranged.1 _ declared
      obtain ⟨_, other_mem, parameters, same, rfl⟩ := alike.methods.1 _ method_mem
      exact .parameter other_declared other_mem ((same _).mp parameter_mem)
  | member declared member_mem =>
      obtain ⟨_, other_declared, alike⟩ := rearranged.1 _ declared
      cases alike with
      | ofAnnotationType members fields methods =>
          exact .member other_declared ((members _).mp member_mem)

theorem MentionedImport.rearrange {naming : Naming} {first second : SourceUnit} {entry : Import}
    (rearranged : first.Rearranged second) (collected : MentionedImport naming first entry) :
    MentionedImport naming second entry := by
  cases collected with
  | reference mentioned needed => exact .reference (mentioned.rearrange rearranged) needed
  | objectArray declared =>
      obtain ⟨_, other_declared, alike⟩ := rearranged.1 _ declared
      cases alike with
      | ofEnum interfaces fields methods => exact .objectArray other_declared

namespace Dependencies

theorem collect_rearranged (naming : Naming) {first second : SourceUnit}
    (rearranged : first.Rearranged second) : collect naming second = collect naming first := by
  have superTypes_iff (entry : Import) :
      SuperTypeImport naming second entry ↔ SuperTypeImport naming first entry :=
    ⟨.rearrange rearranged.symm, .rearrange rearranged⟩
  have mentioned_iff (entry : Import) :
      MentionedImport naming second entry ↔ MentionedImport naming first entry :=
    ⟨.rearrange rearranged.symm, .rearrange rearranged⟩
  have superTypes_eq : (collect naming second).superTypes = (collect naming first).superTypes := by
    refine (superTypes_ascends naming second).eq_of_mem_iff Import.before_isOrder
      (superTypes_ascends naming first) fun entry => ?_
    rw [mem_superTypes_iff, mem_superTypes_iff, superTypes_iff]
  have forward_eq : (collect naming second).forward = (collect naming first).forward := by
    refine (forward_ascends naming second).eq_of_mem_iff Import.before_isOrder
      (forward_ascends naming first) fun entry => ?_
    simp only [mem_forward_iff, mentioned_iff, superTypes_iff]
  calc collect naming second
      = ⟨(collect naming second).forward, (collect naming second).superTypes⟩ := rfl
    _ = ⟨(collect naming first).forward, (collect naming first).superTypes⟩ := by
        rw [forward_eq, superTypes_eq]

/-- The super types are the imports of what a unit extends or adopts, and forward are those of what else
it mentions; no name is in both. -/
theorem collect_exact (naming : Naming) (unit : SourceUnit) :
    (Ascending.Ascends Import.before (collect naming unit).superTypes ∧
        Ascending.Ascends Import.before (collect naming unit).forward) ∧
      (∀ entry, entry ∈ (collect naming unit).superTypes ↔ SuperTypeImport naming unit entry) ∧
      (∀ entry, entry ∈ (collect naming unit).forward ↔
        MentionedImport naming unit entry ∧
          ∀ other, SuperTypeImport naming unit other → other.typeName ≠ entry.typeName) ∧
      (∀ entry ∈ (collect naming unit).forward, ∀ other ∈ (collect naming unit).superTypes,
        other.typeName ≠ entry.typeName) ∧
      ∀ other, unit.Rearranged other → collect naming other = collect naming unit := by
  refine ⟨⟨superTypes_ascends naming unit, forward_ascends naming unit⟩,
    mem_superTypes_iff naming unit, mem_forward_iff naming unit, ?_,
    fun other rearranged => collect_rearranged naming rearranged⟩
  intro entry entry_mem other other_mem
  exact ((mem_forward_iff naming unit entry).mp entry_mem).2 other
    ((mem_superTypes_iff naming unit other).mp other_mem)

/-- A class with the given interfaces and a method with the given parameters. -/
def shelf (interfaces : List TypeRef) (parameters : List Parameter) : Declaration :=
  .ofType
    { type := .declared "shop" "Shelf" .classType
      interfaces
      methods :=
        [{ signature := { name := "put", parameters, returnType := .ofPrimitive .void } }] }

/-- A unit with a class and an enum. -/
def shelfUnit (interfaces : List TypeRef) (parameters : List Parameter) : SourceUnit :=
  { sourceFile := "Shelf.java"
    declarations :=
      [shelf interfaces parameters, .ofEnum { type := .declared "shop" "Color" .enumType }] }

/-- The same unit with its declarations repeated in another order. -/
def shuffledUnit (interfaces : List TypeRef) (parameters : List Parameter) : SourceUnit :=
  { shelfUnit interfaces parameters with
    declarations :=
      (shelfUnit interfaces parameters).declarations.reverse
        ++ (shelfUnit interfaces parameters).declarations }

theorem shelf_rearranged {first second : List TypeRef} {front back : List Parameter}
    (interfaces : SameElements first second) (parameters : SameElements front back) :
    (shelf first front).Rearranged (shelf second back) := by
  refine .ofType rfl interfaces (fun _ => Iff.rfl) ?_
  have put_rearranged : Method.Rearranged
      { signature := { name := "put", parameters := front, returnType := .ofPrimitive .void } }
      { signature := { name := "put", parameters := back, returnType := .ofPrimitive .void } } :=
    ⟨back, parameters, rfl⟩
  simpa [SameUpTo] using put_rearranged

theorem shelfUnit_rearranged {first second : List TypeRef} {front back : List Parameter}
    (interfaces : SameElements first second) (parameters : SameElements front back) :
    (shelfUnit first front).Rearranged (shuffledUnit second back) := by
  have enum_rearranged (enum : EnumDeclaration) :
      Declaration.Rearranged (.ofEnum enum) (.ofEnum enum) :=
    .ofEnum (fun _ => Iff.rfl) (fun _ => Iff.rfl)
      ⟨fun method method_mem => ⟨method, method_mem, _, fun _ => Iff.rfl, rfl⟩,
        fun method method_mem => ⟨method, method_mem, _, fun _ => Iff.rfl, rfl⟩⟩
  simp [SourceUnit.Rearranged, SameUpTo, shelfUnit, shuffledUnit, enum_rearranged,
    shelf_rearranged interfaces parameters]

/-- Parameters and interfaces in another order, with repetitions. -/
theorem collect_exact_of_shuffled :
    collect {}
        (shuffledUnit [.declared "shop" "Listed" .interfaceType,
            .declared "shop" "Store" .interfaceType, .declared "shop" "Listed" .interfaceType]
          [⟨"color", .declared "shop" "Color" .enumType⟩,
            ⟨"item", .declared "shop" "Item" .classType⟩]) =
      collect {}
        (shelfUnit [.declared "shop" "Store" .interfaceType,
            .declared "shop" "Listed" .interfaceType]
          [⟨"item", .declared "shop" "Item" .classType⟩,
            ⟨"color", .declared "shop" "Color" .enumType⟩]) := by
  obtain ⟨_, _, _, _, unchanged⟩ :=
    collect_exact {}
      (shelfUnit [.declared "shop" "Store" .interfaceType,
          .declared "shop" "Listed" .interfaceType]
        [⟨"item", .declared "shop" "Item" .classType⟩,
          ⟨"color", .declared "shop" "Color" .enumType⟩])
  apply unchanged
  apply shelfUnit_rearranged
  · intro value
    simp [or_comm]
  · intro value
    simp [or_comm]

end Dependencies

end HeaderForge
