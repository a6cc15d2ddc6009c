import HeaderForge.Proofs.Docs.Weaving
import HeaderForge.Proofs.Settled

/-!
# Aliases of types

A top-level type whose package has a short name gets an alias: the name it would have otherwise. Each
form of declaration writes it at a place of its own, but always where a line begins and all blocks are
closed, so that the alias is set between lines that do not depend on it.
-/

namespace HeaderForge

namespace Declaration

/-- The declaration as that of a top-level type, or of a type inside another. -/
def placed (isTopLevel : Bool) : Declaration → Declaration
  | .ofType declaration => .ofType { declaration with isTopLevel }
  | .ofEnum declaration => .ofEnum { declaration with isTopLevel }
  | .ofAnnotationType declaration => .ofAnnotationType { declaration with isTopLevel }

@[simp] theorem placed_type (isTopLevel : Bool) (declaration : Declaration) :
    (declaration.placed isTopLevel).type = declaration.type := by
  cases declaration with
  | ofType declaration => rfl
  | ofEnum declaration => rfl
  | ofAnnotationType declaration => rfl

@[simp] theorem placed_fields (isTopLevel : Bool) (declaration : Declaration) :
    (declaration.placed isTopLevel).fields = declaration.fields := by
  cases declaration with
  | ofType declaration => rfl
  | ofEnum declaration => rfl
  | ofAnnotationType declaration => rfl

end Declaration

namespace Header

open Page (line lines ended)

/-! ## The parts around an alias -/

/-- The line that gives a type its alias: a definition for what becomes a protocol, else a type name. -/
def aliasLine (context : Context) (type : TypeRef) : String :=
  let name := context.naming.fullName type
  let unprefixed := Naming.unprefixedName type
  match type.sort? with
  | some .interfaceType | some .annotationType => "#define " ++ unprefixed ++ " " ++ name
  | _ => "typedef " ++ name ++ " " ++ unprefixed ++ ";"

/-- What a declaration writes between its constants and the alias of its type. -/
def beforeAlias (context : Context) : Declaration → List Page.Step
  | .ofType declaration =>
    docLines declaration.doc ++ deprecatedLine context (isDeprecated declaration.annotations)
      ++ (typeHead context declaration).steps
      ++ (methodsSteps context declaration.methods ++ blockEnd ++ typeStatics context declaration
        ++ boxedSteps context declaration.type)
  | .ofEnum declaration =>
    enumeration context declaration ++ docLines declaration.doc
      ++ deprecatedLine context (isDeprecated declaration.annotations)
      ++ (enumHead context declaration).steps
      ++ (lines (enumMethods (context.naming.fullName declaration.type))
        ++ methodsSteps context declaration.methods ++ line endLine
        ++ staticInit context declaration.type declaration.methods
        ++ valuesArray context declaration
        ++ declaration.constants.flatMap (constantAccess context declaration)
        ++ staticVariables context declaration.type declaration.fields
        ++ fieldSetters context declaration.type declaration.fields)
  | .ofAnnotationType declaration =>
    docLines declaration.doc ++ annotationProtocol context declaration
      ++ if needsClass declaration then annotationClass context declaration else []

/-- What a declaration writes after the alias of its type: a class or interface, the block of the methods
whose bodies are written elsewhere; the others, nothing. -/
def afterAlias (context : Context) : Declaration → List Page.Step
  | .ofType declaration => nativeBlock context declaration
  | .ofEnum _ => []
  | .ofAnnotationType _ => []

theorem aliasLine_eq (context : Context) (type : TypeRef) :
    aliasLine context type =
      if type.isProtocol then
        "#define " ++ Naming.unprefixedName type ++ " " ++ context.naming.fullName type
      else
        "typedef " ++ context.naming.fullName type ++ " " ++ Naming.unprefixedName type ++ ";" := by
  unfold aliasLine TypeRef.isProtocol
  cases type.sort? with
  | none => rfl
  | some sort => cases sort <;> rfl

theorem prefixAlias_of_prefixed {context : Context} {type : TypeRef}
    (prefixed : context.naming.hasShortName type.package = true) :
    prefixAlias context type true = .newline :: line (aliasLine context type) := by
  rw [prefixAlias, prefixed, aliasLine_eq]
  rfl

theorem prefixAlias_of_unprefixed {context : Context} {type : TypeRef}
    (unprefixed : context.naming.hasShortName type.package = false) (isTopLevel : Bool) :
    prefixAlias context type isTopLevel = [] := by
  rw [prefixAlias, unprefixed, Bool.and_false, if_neg Bool.false_ne_true]

theorem prefixAlias_of_nested (context : Context) (type : TypeRef) :
    prefixAlias context type false = [] := by
  rw [prefixAlias, Bool.false_and, if_neg Bool.false_ne_true]

theorem body_placed (context : Context) (isTopLevel : Bool) (declaration : Declaration) :
    body context (declaration.placed isTopLevel) =
      beforeAlias context declaration ++ prefixAlias context declaration.type isTopLevel
        ++ afterAlias context declaration := by
  cases declaration with
  | ofType declaration =>
      change typeBody context { declaration with isTopLevel } = _
      simp only [typeBody, beforeAlias, afterAlias, List.append_assoc]
      rfl
  | ofEnum declaration =>
      change enumBody context { declaration with isTopLevel } = _
      simp only [enumBody, beforeAlias, afterAlias, List.append_assoc, List.append_nil]
      rfl
  | ofAnnotationType declaration =>
      change annotationBody context { declaration with isTopLevel } = _
      simp only [annotationBody, beforeAlias, afterAlias, List.append_assoc, List.append_nil]
      rfl

theorem opening_placed (context : Context) (isTopLevel : Bool) (declaration : Declaration) :
    opening context (declaration.placed isTopLevel) = opening context declaration := by
  rw [opening, Declaration.placed_type, Declaration.placed_fields, opening]

/-! ## Lines around an alias -/

theorem beforeAlias_settled (context : Context) (declaration : Declaration) :
    Page.Settled (beforeAlias context declaration) := by
  cases declaration with
  | ofType declaration => exact (typeStart_closing context declaration).settled
  | ofEnum declaration => exact enumStart_settled context declaration
  | ofAnnotationType declaration =>
      exact docLines_settled declaration.doc
        |>.append (annotationProtocol_settled context declaration)
        |>.append (Page.settled_ite (annotationClass_settled context declaration) Page.settled_nil)

theorem afterAlias_settled (context : Context) (declaration : Declaration) :
    Page.Settled (afterAlias context declaration) := by
  cases declaration with
  | ofType declaration => exact nativeBlock_settled context declaration
  | ofEnum declaration => exact Page.settled_nil
  | ofAnnotationType declaration => exact Page.settled_nil

/-- Settled steps write whole lines. -/
theorem exists_lines_of_settled (context : Context) {steps : List Page.Step}
    (settled : Page.Settled steps) : ∃ texts, written context steps = ended texts := by
  obtain ⟨texts, writes⟩ := settled.exists_writes context.settings.indentWidth
  exact ⟨texts, writes.render_eq⟩

theorem written_alias (context : Context) (type : TypeRef) :
    written context (.newline :: line (aliasLine context type)) =
      ended ["", aliasLine context type] := by
  have line_eq := Page.render_line context.settings.indentWidth (aliasLine context type)
  have newline_eq := Page.closing_newline.settled.render_append context.settings.indentWidth
    (line (aliasLine context type))
  rw [line_eq] at newline_eq
  exact newline_eq

/-- Being a top-level type only adds an empty line and the alias, and these only where the package has a
short name. -/
theorem declarationEmission_inserts_alias (context : Context) (declaration : Declaration)
    (sound : (declarationEmission context declaration).fault = none) :
    let emission isTopLevel := declarationEmission context (declaration.placed isTopLevel)
    (∀ isTopLevel, (emission isTopLevel).fault = none) ∧
      (context.naming.hasShortName declaration.type.package = false →
        emission true = emission false) ∧
      (context.naming.hasShortName declaration.type.package = true →
        ∃ above below : List String,
          written context (emission false).steps = ended (above ++ below) ∧
            written context (emission true).steps =
              ended (above ++ "" :: aliasLine context declaration.type :: below) ∧
            ended below = written context (afterAlias context declaration)) := by
  intro emission
  have opening_sound (isTopLevel : Bool) :
      (opening context (declaration.placed isTopLevel)).fault = none := by
    rw [opening_placed, ← declarationEmission_fault]
    exact sound
  have emission_eq (isTopLevel : Bool) : emission isTopLevel =
      ⟨(opening context declaration).steps ++ (beforeAlias context declaration
        ++ prefixAlias context declaration.type isTopLevel ++ afterAlias context declaration),
        none⟩ := by
    rw [← body_placed, ← opening_placed context isTopLevel]
    exact declarationEmission_of_sound (opening_sound isTopLevel)
  refine ⟨fun isTopLevel => by rw [emission_eq], fun unprefixed => ?_, fun prefixed => ?_⟩
  · rw [emission_eq, emission_eq, prefixAlias_of_unprefixed unprefixed,
      prefixAlias_of_unprefixed unprefixed]
  · have above_settled := Page.Settled.append (opening_settled context declaration)
      (beforeAlias_settled context declaration)
    obtain ⟨above, above_eq⟩ := exists_lines_of_settled context above_settled
    obtain ⟨below, below_eq⟩ :=
      exists_lines_of_settled context (afterAlias_settled context declaration)
    have text_eq (isTopLevel : Bool) : written context (emission isTopLevel).steps =
        ended above ++ (written context (prefixAlias context declaration.type isTopLevel)
          ++ ended below) := by
      rw [emission_eq, ← above_eq, ← below_eq, List.append_assoc, ← List.append_assoc]
      simp only [written, above_settled.render_append,
        (prefixAlias_settled context declaration.type isTopLevel).render_append]
    refine ⟨above, below, ?_, ?_, below_eq.symm⟩
    · have nothing : written context [] = "" := rfl
      rw [text_eq, prefixAlias_of_nested, nothing, String.empty_append, Page.ended_append]
    · rw [text_eq, prefixAlias_of_prefixed prefixed, written_alias, ← Page.ended_append,
        ← Page.ended_append, List.cons_append, List.cons_append, List.nil_append]

/-- A class with a method whose body is written elsewhere. -/
def lamp : Declaration :=
  .ofType
    { type := .declared "org.light" "Lamp" .classType
      methods :=
        [{ signature :=
            { name := "open", modifiers := { isNative := true }, returnType := .ofPrimitive .void } }] }

/-- An annotation type that needs no class. -/
def glow : Declaration := .ofAnnotationType { type := .declared "org.light" "Glow" .annotationType }

/-- The alias of a class stands before the block of its last method, that of an annotation type without a
class at the end. -/
theorem declarationEmission_inserts_alias_of_lamp :
    let context : Context := { naming := { prefixes := [⟨"org.light", "OL"⟩] } }
    let text declaration isTopLevel :=
      written context (declarationEmission context (declaration.placed isTopLevel)).steps
    (∃ above below : List String,
      text lamp false = ended (above ++ below) ∧
        text lamp true = ended (above ++ "" :: "typedef OLLamp OrgLightLamp;" :: below) ∧
        ended below = "\n@interface OLLamp (NativeMethods)\n- (void)open;\n@end\n") ∧
      ∃ above below : List String,
        text glow false = ended (above ++ below) ∧
          text glow true = ended (above ++ "" :: "#define OrgLightGlow OLGlow" :: below) ∧
          ended below = "" := by
  intro context text
  have lamp_sound : (declarationEmission context lamp).fault = none := by
    rw [declarationEmission_fault]
    decide
  have glow_sound : (declarationEmission context glow).fault = none := by
    rw [declarationEmission_fault]
    decide
  have lamp_alias : aliasLine context lamp.type = "typedef OLLamp OrgLightLamp;" := by decide
  have glow_alias : aliasLine context glow.type = "#define OrgLightGlow OLGlow" := by decide
  have lamp_below : written context (afterAlias context lamp) =
      "\n@interface OLLamp (NativeMethods)\n- (void)open;\n@end\n" := by
    decide +kernel
  have glow_below : written context (afterAlias context glow) = "" := rfl
  rw [← lamp_alias, ← glow_alias, ← lamp_below, ← glow_below]
  exact ⟨(declarationEmission_inserts_alias context lamp lamp_sound).2.2 (by decide),
    (declarationEmission_inserts_alias context glow glow_sound).2.2 (by decide)⟩

end Header

end HeaderForge
