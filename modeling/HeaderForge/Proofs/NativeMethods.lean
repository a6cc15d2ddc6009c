import HeaderForge.Proofs.AnnotationMembers
import HeaderForge.Proofs.Methods

/-!
# Methods before they have their bodies

A native method is declared in the main block once it comes with its body, and in a block of its own
before. The main block marks a method whose name begins with a reserved word, and a method that is
deprecated. The block of the methods whose bodies are written elsewhere marks neither, so a method is
declared alike in both places exactly if it is not to be marked.
-/

namespace HeaderForge

/-- The method with its native body. -/
def Method.withNativeCode (method : Method) : Method := { method with hasNativeCode := true }

theorem Method.IsOrdinary.withNativeCode_isInMainBlock {method : Method}
    (ordinary : method.IsOrdinary) : method.withNativeCode.isInMainBlock = true := by
  have with_body : method.withNativeCode.IsOrdinary :=
    ⟨ordinary.ordinary, ordinary.notFunction, ordinary.notSynthetic, ordinary.unmapped⟩
  have not_external : method.withNativeCode.isExternalNative = false := Bool.and_false _
  rw [with_body.isInMainBlock_eq, not_external]
  rfl

namespace Header

open Page (line lines)

/-- What stands after a method of the main block: that it belongs to no family, if its name asks for it,
and that it is deprecated, if this is marked. -/
def methodMarks (context : Context) (method : Method) : String :=
  (if MethodFamily.StartsReserved method.signature.name then " OBJC_METHOD_FAMILY_NONE" else "")
    ++ (if context.settings.marksDeprecated && isDeprecated method.annotations then
        " __attribute__((deprecated))" else "")

theorem methodMarks_eq (context : Context) (method : Method) :
    methodMarks context method =
      familyMark method.signature.name
        ++ deprecatedMark context (isDeprecated method.annotations) := by
  simp only [methodMarks, familyMark, MethodFamily.needsOverride_iff]
  rfl

theorem methodMarks_eq_empty_iff (context : Context) (method : Method) :
    methodMarks context method = "" ↔
      ¬MethodFamily.StartsReserved method.signature.name ∧
        (context.settings.marksDeprecated && isDeprecated method.annotations) = false := by
  rw [methodMarks, String.append_eq_empty_iff, ite_eq_right_iff, ite_eq_right_iff,
    ← Bool.not_eq_true]
  have family_ne : " OBJC_METHOD_FAMILY_NONE" ≠ "" := by decide
  have deprecated_ne : " __attribute__((deprecated))" ≠ "" := by decide
  simp only [family_ne, deprecated_ne, imp_false]

theorem methodSteps_withNativeCode (context : Context) {method : Method}
    (ordinary : method.IsOrdinary) :
    methodSteps context method.withNativeCode =
      .newline :: docLines method.doc
        ++ line (context.naming.methodDeclaration method.signature ++ methodMarks context method
          ++ ";") := by
  have line_eq : mainLine context method.withNativeCode =
      ordinaryLine context method.withNativeCode := by
    have sort_eq : method.withNativeCode.signature.sort = .ordinary := ordinary.ordinary
    have unmapped : method.withNativeCode.signature.mappedSelector = none := ordinary.unmapped
    rw [mainLine, unmapped, sort_eq]
  rw [methodSteps, methodLine?_eq, ordinary.withNativeCode_isInMainBlock, if_pos rfl, line_eq,
    ordinaryLine, methodMarks_eq, ← String.append_assoc]
  rfl

/-- The block of the methods whose bodies are written elsewhere, around one of them. -/
theorem nativeBlock_of_external (context : Context) {declaration : TypeDeclaration}
    {before after : List Method} {method : Method}
    (listed : declaration.methods = before ++ method :: after)
    (external : method.isExternalNative = true) :
    nativeBlock context declaration =
      .newline ::
        line ("@interface " ++ context.naming.fullName declaration.type ++ " (NativeMethods)")
        ++ lines ((externalNatives before).map (nativeLine context))
        ++ line (nativeLine context method)
        ++ lines ((externalNatives after).map (nativeLine context)) ++ line "@end" := by
  have natives_eq : externalNatives declaration.methods =
      externalNatives before ++ method :: externalNatives after := by
    rw [listed, externalNatives, List.filter_append, List.filter_cons, if_pos external]
    rfl
  have nonempty : (externalNatives before ++ method :: externalNatives after).isEmpty = false := by
    simp
  rw [nativeBlock_eq, nativeDeclarations, natives_eq, nonempty]
  simp only [Bool.false_eq_true, if_false, List.flatMap_append, List.flatMap_cons, lines,
    List.flatMap_map, List.append_assoc, List.cons_append, String.append_assoc]
  rfl

/-- The line of a method whose body is written elsewhere agrees with that of the method with its body
exactly if the latter has no marks. -/
theorem nativeLine_eq_mainLine_iff (context : Context) (declaration : TypeDeclaration)
    {before after : List Method} {method : Method}
    (listed : declaration.methods = before ++ method :: after) (ordinary : method.IsOrdinary)
    (external : method.isExternalNative = true) :
    ∃ categoryText mainText,
      nativeBlock context declaration =
          .newline ::
            line ("@interface " ++ context.naming.fullName declaration.type ++ " (NativeMethods)")
            ++ lines ((externalNatives before).map (nativeLine context)) ++ line categoryText
            ++ lines ((externalNatives after).map (nativeLine context)) ++ line "@end" ∧
        methodSteps context method.withNativeCode =
          .newline :: docLines method.doc ++ line mainText ∧
        categoryText = context.naming.methodDeclaration method.signature ++ ";" ∧
        mainText = context.naming.methodDeclaration method.signature ++ methodMarks context method
          ++ ";" ∧
        (categoryText = mainText ↔
          ¬MethodFamily.StartsReserved method.signature.name ∧
            (context.settings.marksDeprecated && isDeprecated method.annotations) = false) := by
  refine ⟨_, _, nativeBlock_of_external context listed external,
    methodSteps_withNativeCode context ordinary, rfl, rfl, ?_⟩
  rw [← methodMarks_eq_empty_iff, nativeLine, String.append_left_inj]
  constructor
  · intro same
    rw [← String.append_empty (s := context.naming.methodDeclaration method.signature),
      String.append_assoc, String.append_right_inj, String.empty_append] at same
    exact same.symm
  · intro unmarked
    rw [unmarked, String.append_empty]

/-- A native method without a result. -/
def nativeMethod (name : String) (annotations : List AnnotationUse) : Method :=
  { signature := { name, modifiers := { isNative := true }, returnType := .ofPrimitive .void }
    annotations }

/-- A class of native methods: one with a reserved word, one that has nothing to mark, and one that is
deprecated. -/
def pumpMethods : List Method :=
  [nativeMethod "newHandle" [], nativeMethod "renew" [], nativeMethod "halt" [⟨"Deprecated"⟩]]

/-- The method in the middle is declared alike in both places. The last one is not, unless nothing is
marked as deprecated. -/
theorem nativeLine_eq_mainLine_iff_of_pump :
    let pump : TypeDeclaration :=
      { type := .declared "plant" "Pump" .classType, methods := pumpMethods }
    let renew := nativeMethod "renew" []
    let halt := nativeMethod "halt" [⟨"Deprecated"⟩]
    let quiet : Context := { settings := { marksDeprecated := false } }
    (∃ text,
      nativeBlock {} pump =
          .newline :: line "@interface PlantPump (NativeMethods)"
            ++ lines ["- (void)newHandle;"] ++ line text ++ lines ["- (void)halt;"]
            ++ line "@end" ∧
        methodSteps {} renew.withNativeCode = .newline :: line text) ∧
      (∃ categoryText mainText,
        categoryText = "- (void)halt;" ∧
          mainText = "- (void)halt __attribute__((deprecated));" ∧
          methodSteps {} halt.withNativeCode = .newline :: line mainText ∧
          categoryText ≠ mainText) ∧
      ∃ categoryText mainText,
        methodSteps quiet halt.withNativeCode = .newline :: line mainText ∧
          categoryText = "- (void)halt;" ∧ categoryText = mainText := by
  intro pump renew halt quiet
  have ordinary (name : String) (annotations : List AnnotationUse) :
      (nativeMethod name annotations).IsOrdinary := ⟨rfl, rfl, rfl, rfl⟩
  have renew_listed : pump.methods = [nativeMethod "newHandle" []] ++ renew :: [halt] := rfl
  have halt_listed : pump.methods = [nativeMethod "newHandle" [], renew] ++ halt :: [] := rfl
  refine ⟨?_, ?_, ?_⟩
  · obtain ⟨categoryText, mainText, block_eq, main_eq, -, -, same_iff⟩ :=
      nativeLine_eq_mainLine_iff {} pump renew_listed (ordinary _ _) rfl
    have same : categoryText = mainText := same_iff.mpr (by decide)
    refine ⟨categoryText, block_eq.trans ?_, ?_⟩
    · have head_eq : "@interface " ++ ({} : Context).naming.fullName pump.type ++ " (NativeMethods)" =
          "@interface PlantPump (NativeMethods)" := by decide
      rw [head_eq]
      rfl
    · rw [same]
      exact main_eq
  · obtain ⟨categoryText, mainText, -, main_eq, category_eq, text_eq, same_iff⟩ :=
      nativeLine_eq_mainLine_iff {} pump halt_listed (ordinary _ _) rfl
    exact ⟨categoryText, mainText, category_eq.trans (by decide), text_eq.trans (by decide), main_eq,
      fun same => absurd (same_iff.mp same) (by decide)⟩
  · obtain ⟨categoryText, mainText, -, main_eq, category_eq, -, same_iff⟩ :=
      nativeLine_eq_mainLine_iff quiet pump halt_listed (ordinary _ _) rfl
    exact ⟨categoryText, mainText, main_eq, category_eq.trans (by decide),
      same_iff.mpr (by decide)⟩

/-- A native method says neither that it belongs to no family nor that it is deprecated before it has
its body. -/
theorem nativeLine_unmarked :
    let newHandle := nativeMethod "newHandle" []
    let halt := nativeMethod "halt" [⟨"Deprecated"⟩]
    let foo : TypeDeclaration :=
      { type := .declared "" "Foo" .classType, methods := [newHandle, halt] }
    newHandle.IsOrdinary ∧ newHandle.isExternalNative = true ∧ halt.IsOrdinary ∧
      halt.isExternalNative = true ∧
      nativeBlock {} foo =
        .newline :: lines ["@interface Foo (NativeMethods)", "- (void)newHandle;", "- (void)halt;",
          "@end"] ∧
      methodSteps {} newHandle.withNativeCode =
        .newline :: line "- (void)newHandle OBJC_METHOD_FAMILY_NONE;" ∧
      methodSteps {} halt.withNativeCode =
        .newline :: line "- (void)halt __attribute__((deprecated));" := by
  refine ⟨⟨rfl, rfl, rfl, rfl⟩, rfl, ⟨rfl, rfl, rfl, rfl⟩, rfl, ?_, ?_, ?_⟩
  · decide
  · decide
  · decide

end Header

end HeaderForge
