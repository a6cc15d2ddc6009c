import HeaderForge.Proofs.Declarations

/-!
# Where methods are declared

A class or interface declares methods in two places: in its main block, and in the block of the methods
whose bodies are written elsewhere. Each place takes its methods from the whole list by a test of its
own. No ordinary method passes both tests or neither, unless it is one that headers leave out.
-/

namespace HeaderForge

namespace Method

/-- An ordinary method that a header declares under its own name. -/
structure IsOrdinary (method : Method) : Prop where
  /-- Is neither a constructor nor setup code. -/
  ordinary : method.signature.sort = .ordinary
  /-- Does not become a function. -/
  notFunction : method.signature.isFunction = false
  /-- Was not added by the compiler. -/
  notSynthetic : method.signature.isSynthetic = false
  /-- Stands for no method of the target. -/
  unmapped : method.signature.mappedSelector = none

/-- A constructor, or a method that stands for one of the target, with a body of its own. -/
structure IsSpecial (method : Method) : Prop where
  /-- Is a constructor or stands for a method of the target. -/
  special : method.signature.sort = .constructor ∨ method.signature.mappedSelector.isSome = true
  /-- Does not become a function. -/
  notFunction : method.signature.isFunction = false
  /-- Its body is not written elsewhere. -/
  notExternal : method.isExternalNative = false

/-- Whether the main block of a type declares the method. -/
def isInMainBlock (method : Method) : Bool :=
  !method.signature.isFunction &&
    (method.signature.mappedSelector.isSome || method.signature.sort == .constructor ||
      (method.signature.sort == .ordinary && !method.signature.isSynthetic &&
        !method.isExternalNative))

theorem IsOrdinary.isInMainBlock_eq {method : Method} (ordinary : method.IsOrdinary) :
    method.isInMainBlock = !method.isExternalNative := by
  simp [isInMainBlock, ordinary.ordinary, ordinary.notFunction, ordinary.notSynthetic,
    ordinary.unmapped]

theorem IsSpecial.isInMainBlock_eq {method : Method} (special : method.IsSpecial) :
    method.isInMainBlock = true := by
  rcases special.special with constructor | mapped
  · simp [isInMainBlock, constructor, special.notFunction]
  · simp [isInMainBlock, mapped, special.notFunction]

end Method

namespace Header

open Page (line)

/-! ## The two places -/

/-- The line with which the main block declares a method. -/
def mainLine (context : Context) (method : Method) : String :=
  match method.signature.mappedSelector, method.signature.sort with
  | some selector, _ => context.naming.mappedDeclaration method.signature selector ++ ";"
  | none, .constructor => context.naming.constructorDeclaration method.signature ++ ";"
  | none, _ => ordinaryLine context method

/-- The methods that the main block declares. -/
def mainMethods (methods : List Method) : List Method := methods.filter Method.isInMainBlock

/-- The declarations of methods in the main block, each after an empty line. -/
def mainDeclarations (context : Context) (methods : List Method) : List Page.Step :=
  (mainMethods methods).flatMap fun method =>
    .newline :: docLines method.doc ++ line (mainLine context method)

/-- The block of the methods whose bodies are written elsewhere. -/
def nativeDeclarations (context : Context) (declaring : TypeRef) (methods : List Method) :
    List Page.Step :=
  if (externalNatives methods).isEmpty then []
  else
    .newline ::
      line ("@interface " ++ context.naming.fullName declaring ++ " ("
        ++ SupportLibrary.nativeCategory ++ ")")
      ++ (externalNatives methods).flatMap (fun method => line (nativeLine context method))
      ++ line endLine

theorem methodLine?_eq (context : Context) (method : Method) :
    methodLine? context method =
      if method.isInMainBlock then some (mainLine context method) else none := by
  unfold methodLine? Method.isInMainBlock mainLine
  cases function_eq : method.signature.isFunction with
  | true => simp
  | false =>
      cases mapped_eq : method.signature.mappedSelector with
      | some selector => simp
      | none =>
          cases sort_eq : method.signature.sort with
          | constructor => simp
          | staticInitializer => simp
          | ordinary =>
              cases synthetic_eq : method.signature.isSynthetic with
              | true => simp
              | false =>
                  cases external_eq : method.isExternalNative with
                  | true => simp
                  | false => simp

theorem methodsSteps_eq (context : Context) (methods : List Method) :
    methodsSteps context methods = mainDeclarations context methods := by
  induction methods with
  | nil => rfl
  | cons method rest ih =>
      have step : methodSteps context method =
          if method.isInMainBlock then
            .newline :: docLines method.doc ++ line (mainLine context method)
          else [] := by
        rw [methodSteps, methodLine?_eq]
        cases method.isInMainBlock with
        | true => rfl
        | false => rfl
      rw [methodsSteps, List.flatMap_cons, step]
      change _ ++ methodsSteps context rest = _
      rw [ih, mainDeclarations, mainDeclarations, mainMethods, mainMethods, List.filter_cons]
      cases method.isInMainBlock with
      | true => simp
      | false => simp

theorem nativeBlock_eq (context : Context) (declaration : TypeDeclaration) :
    nativeBlock context declaration =
      nativeDeclarations context declaration.type declaration.methods := by
  unfold nativeBlock nativeDeclarations
  cases externalNatives declaration.methods with
  | nil => rfl
  | cons first rest => simp [Page.lines, List.flatMap_map]

theorem nativeDeclarations_eq_nil_iff (context : Context) (declaring : TypeRef)
    (methods : List Method) :
    nativeDeclarations context declaring methods = [] ↔
      ∀ method ∈ methods, method.isExternalNative = false := by
  have none_iff : (externalNatives methods).isEmpty = true ↔
      ∀ method ∈ methods, method.isExternalNative = false := by
    simp [externalNatives]
  rw [← none_iff, nativeDeclarations]
  cases (externalNatives methods).isEmpty with
  | true => simp
  | false => simp

/-- What follows the main block depends on the methods only in whether one of them is setup code. -/
theorem typeStatics_congr (context : Context) (declaration : TypeDeclaration)
    {first second : List Method} (same : haveInitializer first = haveInitializer second) :
    typeStatics context { declaration with methods := first } =
      typeStatics context { declaration with methods := second } := by
  simp only [typeStatics, companionClass, staticInit, same, TypeDeclaration.isInterface]

/-! ## Both places together -/

/-- A method that sets up its type. -/
def setupMethod : Method :=
  { signature :=
      { name := "initialize", sort := .staticInitializer, returnType := .ofPrimitive .void } }

/-- What a class or interface writes between its main block and the block of the methods whose bodies
are written elsewhere. -/
def afterMainBlock (context : Context) (declaration : TypeDeclaration) (hasSetup : Bool) :
    List Page.Step :=
  typeStatics context { declaration with methods := if hasSetup then [setupMethod] else [] }
    ++ boxedSteps context declaration.type
    ++ prefixAlias context declaration.type declaration.isTopLevel

theorem typeEmission_eq_places (context : Context) (declaration : TypeDeclaration)
    (methods : List Method) :
    typeEmission context { declaration with methods } =
      (opening context (.ofType declaration)).andThen
        ⟨docLines declaration.doc
          ++ deprecatedLine context (isDeprecated declaration.annotations)
          ++ (typeHead context declaration).steps ++ mainDeclarations context methods ++ blockEnd
          ++ afterMainBlock context declaration (haveInitializer methods)
          ++ nativeDeclarations context declaration.type methods, none⟩ := by
  have setup_eq : haveInitializer methods =
      haveInitializer (if haveInitializer methods then [setupMethod] else []) := by
    cases haveInitializer methods with
    | true => rfl
    | false => rfl
  have body_eq : typeBody context { declaration with methods } =
      docLines declaration.doc ++ deprecatedLine context (isDeprecated declaration.annotations)
        ++ (typeHead context declaration).steps ++ mainDeclarations context methods ++ blockEnd
        ++ afterMainBlock context declaration (haveInitializer methods)
        ++ nativeDeclarations context declaration.type methods := by
    rw [typeBody, methodsSteps_eq, nativeBlock_eq, typeStatics_congr context declaration setup_eq]
    simp only [afterMainBlock, List.append_assoc]
    rfl
  rw [← body_eq]
  exact declarationEmission_eq context (.ofType { declaration with methods })

/-- A block takes no occurrence of a method that fails its test. -/
theorem count_filter_of_fails {test : Method → Bool} {method : Method}
    (fails : test method = false) (methods : List Method) :
    (methods.filter test).count method = 0 := by
  apply List.count_eq_zero.mpr
  intro method_mem
  rw [List.mem_filter, fails] at method_mem
  exact Bool.false_ne_true method_mem.2

/-- A class or interface declares each ordinary method in one of two blocks, by where its body is
written, and both keep the order of the methods. -/
theorem typeEmission_declares_methods (context : Context) (declaration : TypeDeclaration) :
    (∃ after : Bool → List Page.Step, ∀ methods,
      typeEmission context { declaration with methods } =
        (opening context (.ofType declaration)).andThen
          ⟨docLines declaration.doc
            ++ deprecatedLine context (isDeprecated declaration.annotations)
            ++ (typeHead context declaration).steps ++ mainDeclarations context methods ++ blockEnd
            ++ after (haveInitializer methods)
            ++ nativeDeclarations context declaration.type methods, none⟩) ∧
      ∀ methods,
        (mainMethods methods).Sublist methods ∧ (externalNatives methods).Sublist methods ∧
          (nativeDeclarations context declaration.type methods = [] ↔
            ∀ method ∈ methods, method.isExternalNative = false) ∧
          ∀ method,
            (method.IsOrdinary → method.isExternalNative = false →
              (mainMethods methods).count method = methods.count method ∧
                (externalNatives methods).count method = 0) ∧
            (method.IsOrdinary → method.isExternalNative = true →
              (mainMethods methods).count method = 0 ∧
                (externalNatives methods).count method = methods.count method) ∧
            (method.IsSpecial →
              (mainMethods methods).count method = methods.count method ∧
                (externalNatives methods).count method = 0) := by
  refine ⟨⟨afterMainBlock context declaration, typeEmission_eq_places context declaration⟩,
    fun methods => ⟨List.filter_sublist, List.filter_sublist,
      nativeDeclarations_eq_nil_iff context declaration.type methods, fun method => ⟨?_, ?_, ?_⟩⟩⟩
  · intro ordinary internal
    have in_main : method.isInMainBlock = true := by rw [ordinary.isInMainBlock_eq, internal]; rfl
    exact ⟨List.count_filter in_main, count_filter_of_fails internal methods⟩
  · intro ordinary external
    have not_in_main : method.isInMainBlock = false := by
      rw [ordinary.isInMainBlock_eq, external]; rfl
    exact ⟨count_filter_of_fails not_in_main methods, List.count_filter external⟩
  · intro special
    exact ⟨List.count_filter special.isInMainBlock_eq,
      count_filter_of_fails special.notExternal methods⟩

/-- A method of the given name without parameters and result. -/
def commandMethod (name : String) (isNative hasNativeCode : Bool) : Method :=
  { signature := { name, modifiers := { isNative }, returnType := .ofPrimitive .void }
    hasNativeCode }

/-- A constructor without parameters. -/
def constructorMethod : Method :=
  { signature := { name := "Device", sort := .constructor, returnType := .ofPrimitive .void } }

/-- A class with methods of several kinds, one of them declared twice. -/
def deviceMethods : List Method :=
  [commandMethod "open" true false, constructorMethod, commandMethod "flush" true true, setupMethod,
   commandMethod "open" true false, commandMethod "name" false false]

theorem typeEmission_declares_methods_of_device :
    (commandMethod "open" true false).IsOrdinary ∧
      (mainMethods deviceMethods).count (commandMethod "open" true false) = 0 ∧
      (externalNatives deviceMethods).count (commandMethod "open" true false) = 2 ∧
      (commandMethod "flush" true true).IsOrdinary ∧
      (mainMethods deviceMethods).count (commandMethod "flush" true true) = 1 ∧
      (externalNatives deviceMethods).count (commandMethod "flush" true true) = 0 ∧
      constructorMethod.IsSpecial ∧ (mainMethods deviceMethods).count constructorMethod = 1 := by
  obtain ⟨_, places⟩ :=
    typeEmission_declares_methods {} { type := .declared "" "Device" .classType }
  obtain ⟨_, _, _, declared⟩ := places deviceMethods
  have open_ordinary : (commandMethod "open" true false).IsOrdinary := ⟨rfl, rfl, rfl, rfl⟩
  have flush_ordinary : (commandMethod "flush" true true).IsOrdinary := ⟨rfl, rfl, rfl, rfl⟩
  have special : constructorMethod.IsSpecial := ⟨Or.inl rfl, rfl, rfl⟩
  obtain ⟨open_main, open_native⟩ := (declared _).2.1 open_ordinary rfl
  obtain ⟨flush_main, flush_native⟩ := (declared _).1 flush_ordinary rfl
  exact ⟨open_ordinary, open_main, open_native.trans (by decide), flush_ordinary,
    flush_main.trans (by decide), flush_native, special,
    ((declared _).2.2 special).1.trans (by decide)⟩

end Header

end HeaderForge
