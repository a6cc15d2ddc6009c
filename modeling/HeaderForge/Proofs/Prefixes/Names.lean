import HeaderForge.Import
import HeaderForge.Naming.Methods
import Mathlib.Data.List.Basic

/-!
# Names and the packages of types

A name depends on the short names of packages only through the packages of the types it is made from.
Where two ways of making names agree on the packages that a unit mentions, its own and those of the
types in it, all names and imports are the same.
-/

namespace HeaderForge

/-! ## The packages a unit mentions -/

/-- The package of the type, and those of the types it is made of. -/
def TypeRef.packages : TypeRef → List String
  | primitive package _ _ => [package]
  | declared package _ _ => [package]
  | array package _ element => package :: element.packages
  | unbounded package _ => [package]
  | bounded package _ bound => package :: bound.packages

/-- The types of the field and of the variables it declares. -/
def Field.types (field : Field) : List TypeRef :=
  field.type :: field.fragments.map Variable.type

/-- The types in the signature of the method. -/
def Method.types (method : Method) : List TypeRef := Declaration.signatureTypes method.signature

/-- The types that occur in the heading of the declaration and in what only its form has. -/
def Declaration.ownTypes : Declaration → List TypeRef
  | ofType declaration =>
    declaration.type :: declaration.superclass.toList ++ declaration.interfaces
  | ofEnum declaration =>
    declaration.type :: declaration.interfaces
      ++ declaration.constants.map fun constant => constant.storage.type
  | ofAnnotationType declaration =>
    declaration.type :: declaration.members.map AnnotationMember.type

/-- The types that occur in the declaration. -/
def Declaration.types (declaration : Declaration) : List TypeRef :=
  declaration.ownTypes ++ declaration.fields.flatMap Field.types
    ++ declaration.methods.flatMap Method.types

/-- The package of the unit, and those of all types that occur in it. -/
def SourceUnit.packages (unit : SourceUnit) : List String :=
  unit.package :: (unit.declarations.flatMap Declaration.types).flatMap TypeRef.packages

theorem TypeRef.package_mem_packages (type : TypeRef) : type.package ∈ type.packages := by
  cases type <;> exact List.mem_cons_self

/-! ## Names -/

namespace Naming

/-- The short name of a package is the last that is given to it. -/
theorem shortName?_eq_getLast? (naming : Naming) (package : String) :
    naming.shortName? package =
      ((naming.prefixes.filter fun entry => entry.package == package).getLast?).map
        PackagePrefix.short := by
  rw [shortName?, ← List.head?_filter, List.filter_reverse, List.head?_reverse]

/-- A short name does nothing where a later entry is for the same package, or where another package is
asked for. -/
theorem shortName?_append_cons {before after : List PackagePrefix} {entry : PackagePrefix}
    {package : String}
    (idle : entry.package = package → package ∈ after.map PackagePrefix.package) :
    shortName? ⟨before ++ entry :: after⟩ package = shortName? ⟨before ++ after⟩ package := by
  rw [shortName?_eq_getLast?, shortName?_eq_getLast?, List.filter_append, List.filter_append]
  by_cases same : entry.package = package
  · obtain ⟨later, later_mem, later_eq⟩ := List.mem_map.mp (idle same)
    have later_found : later ∈ after.filter fun other => other.package == package :=
      List.mem_filter.mpr ⟨later_mem, beq_iff_eq.mpr later_eq⟩
    cases found_eq : after.filter fun other => other.package == package with
    | nil =>
        rw [found_eq] at later_found
        cases later_found
    | cons found rest => simp [same, found_eq]
  · simp [same]

/-- Both ways of making names have the same short names for the packages of the type. -/
def AlikeOn (first second : Naming) (type : TypeRef) : Prop :=
  ∀ package ∈ type.packages, first.shortName? package = second.shortName? package

variable {first second : Naming}

theorem AlikeOn.shortName? {type : TypeRef} (alike : first.AlikeOn second type) :
    first.shortName? type.package = second.shortName? type.package :=
  alike type.package type.package_mem_packages

theorem AlikeOn.element {package name : String} {element : TypeRef}
    (alike : first.AlikeOn second (.array package name element)) : first.AlikeOn second element :=
  fun inner inner_mem => alike inner (List.mem_cons_of_mem package inner_mem)

theorem AlikeOn.bound {package name : String} {bound : TypeRef}
    (alike : first.AlikeOn second (.bounded package name bound)) : first.AlikeOn second bound :=
  fun inner inner_mem => alike inner (List.mem_cons_of_mem package inner_mem)

theorem packageWord_congr {package : String}
    (short_eq : first.shortName? package = second.shortName? package) :
    first.packageWord package = second.packageWord package := by
  rw [packageWord, short_eq, packageWord]

theorem fullName_congr {type : TypeRef} (alike : first.AlikeOn second type) :
    first.fullName type = second.fullName type := by
  cases type with
  | declared package name sort =>
      have word_eq := packageWord_congr alike.shortName?
      simp only [TypeRef.package] at word_eq
      simp only [fullName, declaredName, word_eq]
  | primitive package name type => rfl
  | array package name element => rfl
  | unbounded package name => rfl
  | bounded package name bound => rfl

theorem variableType_congr {type : TypeRef} (alike : first.AlikeOn second type) :
    first.variableType type = second.variableType type := by
  cases type <;> simp only [variableType, fullName_congr alike]

theorem specificType_congr {type : TypeRef} (alike : first.AlikeOn second type) :
    first.specificType type = second.specificType type := by
  induction type with
  | bounded package name bound ih => exact ih alike.bound
  | primitive package name type => exact variableType_congr alike
  | declared package name sort => exact variableType_congr alike
  | array package name element ih => exact variableType_congr alike
  | unbounded package name => exact variableType_congr alike

theorem typeKeyword_congr {type : TypeRef} (alike : first.AlikeOn second type) :
    first.typeKeyword type = second.typeKeyword type := by
  induction type with
  | array package name element ih => rw [typeKeyword, ih alike.element, typeKeyword]
  | declared package name sort => simp only [typeKeyword, fullName_congr alike]
  | primitive package name type => rfl
  | unbounded package name => rfl
  | bounded package name bound => rfl

theorem bareName_congr {type : TypeRef} (alike : first.AlikeOn second type) :
    first.bareName type = second.bareName type := by
  rw [bareName, fullName_congr alike, bareName]

theorem map_fullName_congr {types : List TypeRef}
    (alike : ∀ type ∈ types, first.AlikeOn second type) :
    types.map first.fullName = types.map second.fullName :=
  List.map_congr_left fun type type_mem => fullName_congr (alike type type_mem)

/-! ### Names of methods -/

theorem parameterSlot_congr {parameter : Parameter} (alike : first.AlikeOn second parameter.type)
    (lead : String) : first.parameterSlot lead parameter = second.parameterSlot lead parameter := by
  rw [parameterSlot, typeKeyword_congr alike, variableType_congr alike, parameterSlot]

theorem parameterSlots_congr {parameters : List Parameter}
    (alike : ∀ parameter ∈ parameters, first.AlikeOn second parameter.type) :
    first.parameterSlots parameters = second.parameterSlots parameters := by
  cases parameters with
  | nil => rfl
  | cons parameter rest =>
      rw [List.forall_mem_cons] at alike
      have rest_eq : rest.map (first.parameterSlot "with") = rest.map (second.parameterSlot "with") :=
        List.map_congr_left fun other other_mem => parameterSlot_congr (alike.2 other other_mem) _
      rw [parameterSlots, parameterSlot_congr alike.1, rest_eq, parameterSlots]

theorem mappedSlots_eq_zipWith (naming : Naming) (selector : String) (parameters : List Parameter) :
    naming.mappedSlots selector parameters =
      List.zipWith (fun keyword shown => ⟨keyword, shown.1, shown.2⟩) (selectorKeywords selector)
        (parameters.map fun parameter => (naming.variableType parameter.type, parameter.name)) := by
  rw [List.zipWith_map_right]
  rfl

theorem mappedSlots_congr {parameters : List Parameter}
    (alike : ∀ parameter ∈ parameters, first.AlikeOn second parameter.type) (selector : String) :
    first.mappedSlots selector parameters = second.mappedSlots selector parameters := by
  have shown_eq :
      (parameters.map fun parameter => (first.variableType parameter.type, parameter.name)) =
        parameters.map fun parameter => (second.variableType parameter.type, parameter.name) :=
    List.map_congr_left fun parameter parameter_mem => by
      rw [variableType_congr (alike parameter parameter_mem)]
  rw [mappedSlots_eq_zipWith, shown_eq, ← mappedSlots_eq_zipWith]

theorem memberSlot_congr {member : AnnotationMember} (alike : first.AlikeOn second member.type)
    (keyword : String) : first.memberSlot keyword member = second.memberSlot keyword member := by
  rw [memberSlot, variableType_congr alike, memberSlot]

theorem memberSlots_congr {members : List AnnotationMember}
    (alike : ∀ member ∈ members, first.AlikeOn second member.type) :
    first.memberSlots members = second.memberSlots members := by
  cases members with
  | nil => rfl
  | cons member rest =>
      rw [List.forall_mem_cons] at alike
      have rest_eq : (rest.map fun other => first.memberSlot other.name other) =
          rest.map fun other => second.memberSlot other.name other :=
        List.map_congr_left fun other other_mem => memberSlot_congr (alike.2 other other_mem) _
      rw [memberSlots, memberSlot_congr alike.1, rest_eq, memberSlots]

theorem annotationConstructor_congr {members : List AnnotationMember}
    (alike : ∀ member ∈ members, first.AlikeOn second member.type) :
    first.annotationConstructor members = second.annotationConstructor members := by
  have sorted_alike : ∀ member ∈ sortedMembers members, first.AlikeOn second member.type :=
    fun member member_mem => alike member (List.mem_mergeSort.mp member_mem)
  rw [annotationConstructor, memberSlots_congr sorted_alike, annotationConstructor]

end Naming

/-! ## Imports -/

section

variable {first second : Naming}

theorem ofDeclared_congr {type : TypeRef} (alike : first.AlikeOn second type) :
    Import.ofDeclared first type = Import.ofDeclared second type := by
  rw [Import.ofDeclared, Naming.fullName_congr alike, Import.ofDeclared]

theorem ofSuperType_congr {type : TypeRef} (alike : first.AlikeOn second type) :
    Import.ofSuperType first type = Import.ofSuperType second type := by
  rw [Import.ofSuperType, ofDeclared_congr alike, Import.ofSuperType]

theorem ofReference_congr {type : TypeRef} (alike : first.AlikeOn second type) :
    Import.ofReference first type = Import.ofReference second type := by
  cases type <;> simp only [Import.ofReference, ofDeclared_congr alike]

variable {declaration : Declaration}
  (alike : ∀ type ∈ declaration.types, first.AlikeOn second type)
include alike

theorem ownTypes_alike : ∀ type ∈ declaration.ownTypes, first.AlikeOn second type :=
  fun type type_mem => alike type (List.mem_append_left _ (List.mem_append_left _ type_mem))

theorem fields_alike :
    ∀ field ∈ declaration.fields, ∀ type ∈ field.types, first.AlikeOn second type :=
  fun field field_mem type type_mem =>
    alike type (List.mem_append_left _ (List.mem_append_right _
      (List.mem_flatMap.mpr ⟨field, field_mem, type_mem⟩)))

theorem methods_alike :
    ∀ method ∈ declaration.methods, ∀ type ∈ method.types, first.AlikeOn second type :=
  fun method method_mem type type_mem =>
    alike type (List.mem_append_right _ (List.mem_flatMap.mpr ⟨method, method_mem, type_mem⟩))

theorem type_alike : first.AlikeOn second declaration.type := by
  have own_alike := ownTypes_alike alike
  cases declaration <;> exact own_alike _ List.mem_cons_self

theorem superTypeImports_congr :
    declaration.superTypeImports first = declaration.superTypeImports second := by
  have own_alike := ownTypes_alike alike
  have imports_eq {types : List TypeRef} (types_mem : ∀ type ∈ types, type ∈ declaration.ownTypes) :
      types.filterMap (Import.ofSuperType first) = types.filterMap (Import.ofSuperType second) :=
    List.filterMap_congr fun type type_mem =>
      ofSuperType_congr (own_alike type (types_mem type type_mem))
  cases declaration with
  | ofType declaration => exact imports_eq fun type type_mem => List.mem_cons_of_mem _ type_mem
  | ofEnum declaration =>
      exact congrArg (Import.enumBase :: ·) (imports_eq fun type type_mem =>
        List.mem_append_left _ (List.mem_cons_of_mem _ type_mem))
  | ofAnnotationType declaration => rfl

theorem mentionedTypes_alike : ∀ type ∈ declaration.mentionedTypes, first.AlikeOn second type := by
  intro type type_mem
  rcases List.mem_append.mp type_mem with type_mem | of_method
  · rcases List.mem_append.mp type_mem with of_form | of_field
    · have own_alike := ownTypes_alike alike
      cases declaration with
      | ofType declaration => cases of_form
      | ofEnum declaration => cases of_form
      | ofAnnotationType declaration => exact own_alike type (List.mem_cons_of_mem _ of_form)
    · obtain ⟨field, field_mem, rfl⟩ := List.mem_map.mp of_field
      exact fields_alike alike field field_mem field.type List.mem_cons_self
  · obtain ⟨method, method_mem, type_mem⟩ := List.mem_flatMap.mp of_method
    exact methods_alike alike method method_mem type type_mem

theorem mentionedImports_congr :
    declaration.mentionedImports first = declaration.mentionedImports second := by
  have imports_eq : declaration.mentionedTypes.filterMap (Import.ofReference first) =
      declaration.mentionedTypes.filterMap (Import.ofReference second) :=
    List.filterMap_congr fun type type_mem =>
      ofReference_congr (mentionedTypes_alike alike type type_mem)
  simp only [Declaration.mentionedImports, imports_eq]

end

/-! ## Units -/

section

variable {first second : Naming} {unit : SourceUnit}
  (agree : ∀ package ∈ unit.packages, first.shortName? package = second.shortName? package)
include agree

theorem declarations_alike :
    ∀ declaration ∈ unit.declarations, ∀ type ∈ declaration.types, first.AlikeOn second type :=
  fun declaration declaration_mem type type_mem package package_mem =>
    agree package (List.mem_cons_of_mem _ (List.mem_flatMap.mpr
      ⟨type, List.mem_flatMap.mpr ⟨declaration, declaration_mem, type_mem⟩, package_mem⟩))

theorem mainName_congr : first.mainName unit = second.mainName unit := by
  unfold Naming.mainName
  cases main_eq : unit.mainDeclaration? with
  | none => simp only [Naming.packageWord_congr (agree unit.package List.mem_cons_self)]
  | some declaration =>
      have declaration_mem := List.mem_of_find?_eq_some main_eq
      exact Naming.fullName_congr (type_alike (declarations_alike agree declaration declaration_mem))

theorem collect_congr : Dependencies.collect first unit = Dependencies.collect second unit := by
  have alike := declarations_alike agree
  have superTypes_eq : unit.declarations.flatMap (Declaration.superTypeImports first) =
      unit.declarations.flatMap (Declaration.superTypeImports second) :=
    List.flatMap_congr fun declaration declaration_mem =>
      superTypeImports_congr (alike declaration declaration_mem)
  have mentioned_eq : unit.declarations.flatMap (Declaration.mentionedImports first) =
      unit.declarations.flatMap (Declaration.mentionedImports second) :=
    List.flatMap_congr fun declaration declaration_mem =>
      mentionedImports_congr (alike declaration declaration_mem)
  rw [Dependencies.collect, superTypes_eq, mentioned_eq, Dependencies.collect]

end

end HeaderForge
