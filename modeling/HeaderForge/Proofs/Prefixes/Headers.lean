import HeaderForge.Proofs.Declarations
import HeaderForge.Proofs.Prefixes.Names

/-!
# Headers and short names of packages

A header depends on the short names of packages only through the packages that its unit mentions. So
the order of short names of different packages, short names that later ones replace and short names of
other packages make no difference.
-/

namespace HeaderForge

namespace Header

variable {first second : Naming} (settings : Settings)

section

variable {declaring : TypeRef} (alike : first.AlikeOn second declaring)
include alike

/-! ## Openings -/

theorem mismatch?_congr (var : Variable) :
    mismatch? ⟨first, settings⟩ declaring var = mismatch? ⟨second, settings⟩ declaring var := by
  simp only [mismatch?, Naming.fullName_congr alike]

theorem constantDefinitions_congr (fields : List Field) :
    constantDefinitions ⟨first, settings⟩ declaring fields =
      constantDefinitions ⟨second, settings⟩ declaring fields := by
  have definition_eq : variableDefinition ⟨first, settings⟩ declaring =
      variableDefinition ⟨second, settings⟩ declaring := by
    funext var
    simp only [variableDefinition, mismatch?_congr settings alike, definition, Naming.constantName,
      Naming.fullName_congr alike]
  rw [constantDefinitions, definition_eq, constantDefinitions]

theorem checkFields_congr (fields : List Field) :
    checkFields ⟨first, settings⟩ declaring fields =
      checkFields ⟨second, settings⟩ declaring fields := by
  simp only [checkFields, emptyField?, Naming.fullName_congr alike]

end

/-! ## Fields and methods -/

section

variable {fields : List Field}
  (alike : ∀ field ∈ fields, ∀ type ∈ field.types, first.AlikeOn second type)
include alike

theorem instanceVariables_congr {declaring : TypeRef}
    (declaring_alike : first.AlikeOn second declaring) :
    instanceVariables ⟨first, settings⟩ declaring fields =
      instanceVariables ⟨second, settings⟩ declaring fields := by
  have field_eq : ∀ field ∈ instanceFields fields,
      instanceField ⟨first, settings⟩ declaring field =
        instanceField ⟨second, settings⟩ declaring field := by
    intro field field_mem
    unfold instanceField
    cases fragments_eq : field.fragments with
    | nil => simp only [Naming.fullName_congr declaring_alike]
    | cons lead rest =>
        have lead_mem : lead.type ∈ field.types := by simp [Field.types, fragments_eq]
        have lead_alike := alike field (List.mem_filter.mp field_mem).1 _ lead_mem
        simp only [variablesLine, Naming.specificType_congr lead_alike]
  unfold instanceVariables
  cases instance_eq : instanceFields fields with
  | nil => rfl
  | cons field rest =>
      rw [instance_eq] at field_eq
      simp only [checkFields_congr settings declaring_alike, Emission.forEach_congr field_eq]

theorem staticVariables_congr {declaring : TypeRef}
    (declaring_alike : first.AlikeOn second declaring) :
    staticVariables ⟨first, settings⟩ declaring fields =
      staticVariables ⟨second, settings⟩ declaring fields := by
  apply List.flatMap_congr
  intro var var_mem
  obtain ⟨field, field_mem, fragment_mem⟩ := List.mem_flatMap.mp (List.mem_filter.mp var_mem).1
  have type_mem : var.type ∈ field.types :=
    List.mem_cons_of_mem _ (List.mem_map_of_mem fragment_mem)
  have type_alike := alike field (List.mem_filter.mp field_mem).1 _ type_mem
  simp only [staticVariable, Naming.fullName_congr declaring_alike,
    Naming.variableType_congr type_alike]

theorem fieldSetters_congr {declaring : TypeRef}
    (declaring_alike : first.AlikeOn second declaring) :
    fieldSetters ⟨first, settings⟩ declaring fields =
      fieldSetters ⟨second, settings⟩ declaring fields := by
  have setters_eq : fields.flatMap (setterLines ⟨first, settings⟩ declaring) =
      fields.flatMap (setterLines ⟨second, settings⟩ declaring) := by
    apply List.flatMap_congr
    intro field field_mem
    have type_alike := alike field field_mem field.type List.mem_cons_self
    simp only [setterLines, Naming.fullName_congr declaring_alike,
      Naming.variableType_congr type_alike]
  rw [fieldSetters, setters_eq, fieldSetters]

end

section

variable {method : Method} (alike : ∀ type ∈ method.types, first.AlikeOn second type)
include alike

theorem methodStart_congr :
    first.methodStart method.signature = second.methodStart method.signature := by
  have result_alike := alike method.signature.returnType List.mem_cons_self
  rw [Naming.methodStart, Naming.variableType_congr result_alike, Naming.methodStart]

theorem parameters_alike :
    ∀ parameter ∈ method.signature.parameters, first.AlikeOn second parameter.type :=
  fun parameter parameter_mem =>
    alike parameter.type (List.mem_cons_of_mem _ (List.mem_map_of_mem parameter_mem))

theorem methodDeclaration_congr :
    first.methodDeclaration method.signature = second.methodDeclaration method.signature := by
  rw [Naming.methodDeclaration, methodStart_congr alike,
    Naming.parameterSlots_congr (parameters_alike alike), Naming.methodDeclaration]

theorem methodLine?_congr :
    methodLine? ⟨first, settings⟩ method = methodLine? ⟨second, settings⟩ method := by
  have parameters := parameters_alike alike
  simp only [methodLine?, ordinaryLine, methodDeclaration_congr alike,
    Naming.mappedDeclaration, methodStart_congr alike, Naming.mappedSlots_congr parameters,
    Naming.constructorDeclaration, Naming.parameterSlots_congr parameters]
  rfl

end

section

variable {methods : List Method}
  (alike : ∀ method ∈ methods, ∀ type ∈ method.types, first.AlikeOn second type)
include alike

theorem methodsSteps_congr :
    methodsSteps ⟨first, settings⟩ methods = methodsSteps ⟨second, settings⟩ methods :=
  List.flatMap_congr fun method method_mem => by
    rw [methodSteps, methodLine?_congr settings (alike method method_mem), methodSteps]

theorem nativeLines_congr :
    methods.map (nativeLine ⟨first, settings⟩) = methods.map (nativeLine ⟨second, settings⟩) :=
  List.map_congr_left fun method method_mem => by
    rw [nativeLine, methodDeclaration_congr (alike method method_mem), nativeLine]

end

/-! ## What belongs to the type itself -/

section

variable {declaring : TypeRef} (alike : first.AlikeOn second declaring)
include alike

theorem staticInit_congr (methods : List Method) :
    staticInit ⟨first, settings⟩ declaring methods =
      staticInit ⟨second, settings⟩ declaring methods := by
  simp only [staticInit, Naming.fullName_congr alike]

theorem boxedSteps_congr :
    boxedSteps ⟨first, settings⟩ declaring = boxedSteps ⟨second, settings⟩ declaring := by
  simp only [boxedSteps, Naming.fullName_congr alike]

/-- The alias is the one line that asks whether a package has a short name at all. -/
theorem prefixAlias_congr (isTopLevel : Bool) :
    prefixAlias ⟨first, settings⟩ declaring isTopLevel =
      prefixAlias ⟨second, settings⟩ declaring isTopLevel := by
  simp only [prefixAlias, Naming.hasShortName, alike.shortName?, Naming.fullName_congr alike]

end

/-! ## Classes and interfaces -/

section

variable {declaration : TypeDeclaration}
  (own_alike : ∀ type ∈ (Declaration.ofType declaration).ownTypes, first.AlikeOn second type)
include own_alike

theorem superName_congr :
    superName ⟨first, settings⟩ declaration = superName ⟨second, settings⟩ declaration := by
  unfold superName
  cases superclass_eq : declaration.superclass with
  | none => rfl
  | some superclass =>
      have superclass_mem : superclass ∈ (Declaration.ofType declaration).ownTypes := by
        simp [Declaration.ownTypes, superclass_eq]
      exact Naming.fullName_congr (own_alike superclass superclass_mem)

theorem typeHead_congr
    (fields_alike : ∀ field ∈ declaration.fields, ∀ type ∈ field.types, first.AlikeOn second type) :
    typeHead ⟨first, settings⟩ declaration = typeHead ⟨second, settings⟩ declaration := by
  have declaring_alike : first.AlikeOn second declaration.type := own_alike _ List.mem_cons_self
  have interfaces_alike : ∀ type ∈ declaration.interfaces, first.AlikeOn second type :=
    fun type type_mem => own_alike type (List.mem_append_right _ type_mem)
  simp only [typeHead, protocolHead, classHead, Naming.fullName_congr declaring_alike,
    Naming.map_fullName_congr interfaces_alike, superName_congr settings own_alike,
    instanceVariables_congr settings fields_alike declaring_alike]

theorem typeStatics_congr_naming
    (fields_alike : ∀ field ∈ declaration.fields, ∀ type ∈ field.types, first.AlikeOn second type) :
    typeStatics ⟨first, settings⟩ declaration = typeStatics ⟨second, settings⟩ declaration := by
  have declaring_alike : first.AlikeOn second declaration.type := own_alike _ List.mem_cons_self
  simp only [typeStatics, companionClass, Naming.fullName_congr declaring_alike,
    staticInit_congr settings declaring_alike,
    fieldSetters_congr settings fields_alike declaring_alike,
    staticVariables_congr settings fields_alike declaring_alike]

theorem nativeBlock_congr
    (methods_alike : ∀ method ∈ declaration.methods, ∀ type ∈ method.types,
      first.AlikeOn second type) :
    nativeBlock ⟨first, settings⟩ declaration = nativeBlock ⟨second, settings⟩ declaration := by
  have declaring_alike : first.AlikeOn second declaration.type := own_alike _ List.mem_cons_self
  have natives_alike : ∀ method ∈ externalNatives declaration.methods, ∀ type ∈ method.types,
      first.AlikeOn second type :=
    fun method method_mem => methods_alike method (List.mem_filter.mp method_mem).1
  unfold nativeBlock
  cases natives_eq : externalNatives declaration.methods with
  | nil => rfl
  | cons native natives =>
      rw [natives_eq] at natives_alike
      simp only [Naming.fullName_congr declaring_alike, nativeLines_congr settings natives_alike]

theorem typeBody_congr
    (fields_alike : ∀ field ∈ declaration.fields, ∀ type ∈ field.types, first.AlikeOn second type)
    (methods_alike : ∀ method ∈ declaration.methods, ∀ type ∈ method.types,
      first.AlikeOn second type) :
    typeBody ⟨first, settings⟩ declaration = typeBody ⟨second, settings⟩ declaration := by
  have declaring_alike : first.AlikeOn second declaration.type := own_alike _ List.mem_cons_self
  rw [typeBody, typeHead_congr settings own_alike fields_alike,
    methodsSteps_congr settings methods_alike, typeStatics_congr_naming settings own_alike fields_alike,
    boxedSteps_congr settings declaring_alike, prefixAlias_congr settings declaring_alike,
    nativeBlock_congr settings own_alike methods_alike]
  rfl

end

/-! ## Enums -/

section

variable {declaration : EnumDeclaration}
  (own_alike : ∀ type ∈ (Declaration.ofEnum declaration).ownTypes, first.AlikeOn second type)
include own_alike

theorem enumProtocols_congr :
    enumProtocols ⟨first, settings⟩ declaration = enumProtocols ⟨second, settings⟩ declaration := by
  have adopted_alike : ∀ type ∈ declaration.interfaces.filter fun type =>
      type.simpleName ≠ SupportLibrary.copyingInterface, first.AlikeOn second type := by
    intro type type_mem
    have own_mem : type ∈ (Declaration.ofEnum declaration).ownTypes := by
      simp [Declaration.ownTypes, (List.mem_filter.mp type_mem).1]
    exact own_alike type own_mem
  rw [enumProtocols, Naming.map_fullName_congr adopted_alike, enumProtocols]

theorem enumeratorName_congr (constant : EnumConstant) :
    enumeratorName ⟨first, settings⟩ declaration constant =
      enumeratorName ⟨second, settings⟩ declaration constant := by
  simp only [enumeratorName, Naming.bareName_congr (own_alike _ List.mem_cons_self)]

theorem enumeration_congr :
    enumeration ⟨first, settings⟩ declaration = enumeration ⟨second, settings⟩ declaration := by
  have line_eq : enumeratorLine ⟨first, settings⟩ declaration =
      enumeratorLine ⟨second, settings⟩ declaration := by
    funext numbered
    simp only [enumeratorLine, enumeratorName_congr settings own_alike]
  simp only [enumeration, line_eq, Naming.bareName_congr (own_alike _ List.mem_cons_self)]

theorem enumBody_congr
    (fields_alike : ∀ field ∈ declaration.fields, ∀ type ∈ field.types, first.AlikeOn second type)
    (methods_alike : ∀ method ∈ declaration.methods, ∀ type ∈ method.types,
      first.AlikeOn second type) :
    enumBody ⟨first, settings⟩ declaration = enumBody ⟨second, settings⟩ declaration := by
  have declaring_alike : first.AlikeOn second declaration.type := own_alike _ List.mem_cons_self
  have head_eq : enumHead ⟨first, settings⟩ declaration = enumHead ⟨second, settings⟩ declaration := by
    simp only [enumHead, Naming.fullName_congr declaring_alike,
      enumProtocols_congr settings own_alike,
      instanceVariables_congr settings fields_alike declaring_alike]
  have access_eq : constantAccess ⟨first, settings⟩ declaration =
      constantAccess ⟨second, settings⟩ declaration := by
    funext constant
    simp only [constantAccess, Naming.fullName_congr declaring_alike,
      enumeratorName_congr settings own_alike]
  simp only [enumBody, enumeration_congr settings own_alike, head_eq, access_eq, valuesArray,
    Naming.fullName_congr declaring_alike, methodsSteps_congr settings methods_alike,
    staticInit_congr settings declaring_alike,
    staticVariables_congr settings fields_alike declaring_alike,
    fieldSetters_congr settings fields_alike declaring_alike,
    prefixAlias_congr settings declaring_alike]
  rfl

end

/-! ## Annotation types -/

section

variable {members : List AnnotationMember}
  (alike : ∀ member ∈ members, first.AlikeOn second member.type)
include alike

theorem properties_congr :
    properties ⟨first, settings⟩ members = properties ⟨second, settings⟩ members := by
  have lines_eq : members.flatMap (propertyLines ⟨first, settings⟩) =
      members.flatMap (propertyLines ⟨second, settings⟩) :=
    List.flatMap_congr fun member member_mem => by
      simp only [propertyLines, Naming.specificType_congr (alike member member_mem)]
  rw [properties, lines_eq, properties]

theorem memberVariables_congr :
    memberVariables ⟨first, settings⟩ members = memberVariables ⟨second, settings⟩ members := by
  have lines_eq : members.map (memberLine ⟨first, settings⟩) =
      members.map (memberLine ⟨second, settings⟩) :=
    List.map_congr_left fun member member_mem => by
      simp only [memberLine, Naming.variableType_congr (alike member member_mem)]
  simp only [memberVariables, lines_eq, Naming.annotationConstructor_congr alike]

theorem defaultAccessors_congr :
    defaultAccessors ⟨first, settings⟩ members = defaultAccessors ⟨second, settings⟩ members := by
  have lines_eq : members.filterMap (defaultLine? ⟨first, settings⟩) =
      members.filterMap (defaultLine? ⟨second, settings⟩) :=
    List.filterMap_congr fun member member_mem => by
      simp only [defaultLine?, Naming.specificType_congr (alike member member_mem)]
  rw [defaultAccessors, lines_eq, defaultAccessors]

end

theorem annotationBody_congr {declaration : AnnotationDeclaration}
    (own_alike :
      ∀ type ∈ (Declaration.ofAnnotationType declaration).ownTypes, first.AlikeOn second type)
    (fields_alike : ∀ field ∈ declaration.fields, ∀ type ∈ field.types,
      first.AlikeOn second type) :
    annotationBody ⟨first, settings⟩ declaration =
      annotationBody ⟨second, settings⟩ declaration := by
  have declaring_alike : first.AlikeOn second declaration.type := own_alike _ List.mem_cons_self
  have members_alike : ∀ member ∈ declaration.members, first.AlikeOn second member.type :=
    fun member member_mem =>
      own_alike member.type (List.mem_cons_of_mem _ (List.mem_map_of_mem member_mem))
  simp only [annotationBody, annotationProtocol, annotationClass,
    Naming.fullName_congr declaring_alike, properties_congr settings members_alike,
    memberVariables_congr settings members_alike, defaultAccessors_congr settings members_alike,
    staticInit_congr settings declaring_alike,
    staticVariables_congr settings fields_alike declaring_alike,
    prefixAlias_congr settings declaring_alike]

/-! ## Units -/

/-- A declaration is written alike with short names that agree on the packages in it. -/
theorem declarationEmission_congr {declaration : Declaration}
    (alike : ∀ type ∈ declaration.types, first.AlikeOn second type) :
    declarationEmission ⟨first, settings⟩ declaration =
      declarationEmission ⟨second, settings⟩ declaration := by
  have own := ownTypes_alike alike
  have fields := fields_alike alike
  have opening_eq : opening ⟨first, settings⟩ declaration = opening ⟨second, settings⟩ declaration := by
    rw [opening, checkFields_congr settings (type_alike alike),
      constantDefinitions_congr settings (type_alike alike), opening]
  have body_eq : body ⟨first, settings⟩ declaration = body ⟨second, settings⟩ declaration := by
    cases declaration with
    | ofType declaration => exact typeBody_congr settings own fields (methods_alike alike)
    | ofEnum declaration => exact enumBody_congr settings own fields (methods_alike alike)
    | ofAnnotationType declaration => exact annotationBody_congr settings own fields
  rw [declarationEmission_eq, opening_eq, body_eq, declarationEmission_eq]

theorem generate_congr {unit : SourceUnit}
    (agree : ∀ package ∈ unit.packages, first.shortName? package = second.shortName? package) :
    generate ⟨first, settings⟩ unit = generate ⟨second, settings⟩ unit := by
  have alike := declarations_alike agree
  have separated_eq : ∀ declaration ∈ unit.declarations,
      separated ⟨first, settings⟩ declaration = separated ⟨second, settings⟩ declaration :=
    fun declaration declaration_mem => by
      rw [separated, declarationEmission_congr settings (alike declaration declaration_mem),
        separated]
  have emission_eq : unitEmission ⟨first, settings⟩ unit = unitEmission ⟨second, settings⟩ unit := by
    simp only [unitEmission, mainName_congr agree, collect_congr agree,
      Emission.forEach_congr separated_eq]
    rfl
  rw [generate, emission_eq, generate]

end Header

/-- With either list of short names the unit has the same header, or the same fault, whatever the
settings, and the same dependencies. -/
def SourceUnit.SameUnder (unit : SourceUnit) (first second : List PackagePrefix) : Prop :=
  (∀ settings : Header.Settings,
      Header.generate ⟨⟨first⟩, settings⟩ unit = Header.generate ⟨⟨second⟩, settings⟩ unit) ∧
    Dependencies.collect ⟨first⟩ unit = Dependencies.collect ⟨second⟩ unit

theorem SourceUnit.sameUnder_of_agree {unit : SourceUnit} {first second : List PackagePrefix}
    (agree : ∀ package ∈ unit.packages,
      Naming.shortName? ⟨first⟩ package = Naming.shortName? ⟨second⟩ package) :
    unit.SameUnder first second :=
  ⟨fun settings => Header.generate_congr settings agree, collect_congr agree⟩

/-- Lists of short names that agree on the packages a unit mentions make no difference to it. -/
theorem SourceUnit.sameUnder_of_mentioned (unit : SourceUnit) :
    (∀ first second : List PackagePrefix,
        (∀ package ∈ unit.packages,
          Naming.shortName? ⟨first⟩ package = Naming.shortName? ⟨second⟩ package) →
        unit.SameUnder first second) ∧
      (∀ first second : List PackagePrefix,
        (∀ package, (first.filter fun entry => entry.package == package) =
          second.filter fun entry => entry.package == package) →
        unit.SameUnder first second) ∧
      (∀ (before after : List PackagePrefix) (entry : PackagePrefix),
        entry.package ∈ after.map PackagePrefix.package →
        unit.SameUnder (before ++ entry :: after) (before ++ after)) ∧
      ∀ (before after : List PackagePrefix) (entry : PackagePrefix),
        entry.package ∉ unit.packages →
        unit.SameUnder (before ++ entry :: after) (before ++ after) := by
  refine ⟨fun first second => sameUnder_of_agree, ?reordered, ?replaced, ?unmentioned⟩
  case reordered =>
    intro first second same
    refine sameUnder_of_agree fun package _ => ?_
    rw [Naming.shortName?_eq_getLast?, same package, ← Naming.shortName?_eq_getLast?]
  case replaced =>
    intro before after entry replaced
    exact sameUnder_of_agree fun package _ =>
      Naming.shortName?_append_cons fun same => same ▸ replaced
  case unmentioned =>
    intro before after entry unmentioned
    refine sameUnder_of_agree fun package mentioned => Naming.shortName?_append_cons fun same => ?_
    exact absurd (same ▸ mentioned) unmentioned

/-- A class that holds a list of another package. -/
def drawerUnit : SourceUnit where
  package := "com.example"
  sourceFile := "com/example/Drawer.java"
  declarations :=
    [.ofType
      { type := .declared "com.example" "Drawer" .classType
        fields :=
          [Field.addName
            { type := .array "" "Sock[]" (.declared "com.example.socks" "Sock" .classType)
              fragments := [] } "pairs"] }]

/-- Short names of the packages around the mentioned ones are without effect, as are a replaced entry
and the order. -/
theorem SourceUnit.sameUnder_of_drawer :
    drawerUnit.SameUnder
        [⟨"com.example", "X"⟩, ⟨"com.example.socks", "CES"⟩, ⟨"com", "C"⟩, ⟨"com.example", "CE"⟩]
        [⟨"com.example", "CE"⟩, ⟨"com.example.socks", "CES"⟩] ∧
      drawerUnit.SameUnder [⟨"com.example", "CE"⟩, ⟨"com.example.socks", "CES"⟩]
        [⟨"com.example.socks", "CES"⟩, ⟨"com.example", "CE"⟩] ∧
      drawerUnit.SameUnder [⟨"com.example", "X"⟩, ⟨"com.example", "CE"⟩] [⟨"com.example", "CE"⟩] ∧
      drawerUnit.SameUnder [⟨"com", "C"⟩, ⟨"com.example", "CE"⟩] [⟨"com.example", "CE"⟩] := by
  obtain ⟨agreeing, reordered, replaced, unmentioned⟩ := sameUnder_of_mentioned drawerUnit
  have same_entries (package : String) :
      ([⟨"com.example", "CE"⟩, ⟨"com.example.socks", "CES"⟩] : List PackagePrefix).filter
          (fun entry => entry.package == package) =
        [⟨"com.example.socks", "CES"⟩, ⟨"com.example", "CE"⟩].filter
          fun entry => entry.package == package := by
    by_cases own : "com.example" = package
    · subst own
      decide
    · simp [List.filter_cons, own]
  exact ⟨agreeing _ _ (by decide), reordered _ _ same_entries,
    replaced [] [⟨"com.example", "CE"⟩] ⟨"com.example", "X"⟩ (by decide),
    unmentioned [] [⟨"com.example", "CE"⟩] ⟨"com", "C"⟩ (by decide)⟩

end HeaderForge
