import HeaderForge.Proofs.Dependencies
import HeaderForge.Proofs.Settled
import HeaderForge.Proofs.TypeUse.Uses

/-!
# Announced types

A header announces the types of other headers by including these or by declaring the types to exist.
It announces what it uses, but for two escapes: the bounds of type variables, which are written out
where variables are declared although only the type variable counts as mentioned, and arrays in the
place of a type to extend, if their name is that of a type with a counterpart.
-/

namespace HeaderForge

/-- The names that stand in a declaration without being announced: those of the target's own library
and of the runtime, and the declaration's own. -/
def freeNames (naming : Naming) (declaration : Declaration) : List String :=
  Foundation.counterparts.map Foundation.Counterpart.targetName
    ++ [SupportLibrary.sourceObjectProtocol, "NSZone", naming.fullName declaration.type]

/-- The names that a header announces. -/
def Dependencies.announced (dependencies : Dependencies) : List String :=
  (dependencies.superTypes ++ dependencies.forward).map Import.typeName

/-- A declaration of a unit may use a name: the name is free or announced. -/
def Announced (naming : Naming) (unit : SourceUnit) (declaration : Declaration) (name : String) :
    Prop :=
  name ∈ freeNames naming declaration ++ (Dependencies.collect naming unit).announced
deriving Decidable

/-- The names that a declaration uses although neither the mention of their type nor that of what
stands for it is collected. -/
inductive Declaration.Escapes (naming : Naming) (declaration : Declaration) : String → Prop
  | bound {package variableName name : String} {bound : TypeRef}
      (written : .bounded package variableName bound ∈ declaration.resolvedTypes)
      (named : name ∈ (naming.mention bound.resolved).names) : Escapes naming declaration name
  | array {package arrayName : String} {element : TypeRef}
      (written : .array package arrayName element ∈ declaration.writtenSuperTypes)
      (mapped : Foundation.isMapped (TypeRef.array package arrayName element).qualifiedName = true) :
      Escapes naming declaration (Naming.arrayClass element)

section

variable {naming : Naming} {unit : SourceUnit} {declaration : Declaration}

/-! ## Announcement -/

theorem announced_of_free {name : String} (free : name ∈ freeNames naming declaration) :
    Announced naming unit declaration name :=
  List.mem_append_left _ free

theorem announced_of_superType {entry : Import} (collected : SuperTypeImport naming unit entry) :
    Announced naming unit declaration entry.typeName := by
  apply List.mem_append_right
  apply List.mem_map_of_mem
  exact List.mem_append_left _ ((Dependencies.mem_superTypes_iff naming unit entry).mpr collected)

/-- What is mentioned is announced: it is declared to exist, or a type of its name is included. -/
theorem announced_of_mentioned {entry : Import} (mentioned : MentionedImport naming unit entry) :
    Announced naming unit declaration entry.typeName := by
  apply List.mem_append_right
  rw [Dependencies.announced, List.map_append, List.mem_append]
  rcases Dependencies.mem_forward_or_included mentioned with forwarded | ⟨other, included, name_eq⟩
  · exact Or.inr (List.mem_map_of_mem forwarded)
  · -- The import that is left out may differ in its file: only the name has to be announced.
    exact Or.inl (name_eq ▸ List.mem_map_of_mem included)

theorem announced_of_mapped {package name : String} {sort : TypeSort}
    (mapped : Foundation.isMapped (TypeRef.declared package name sort).qualifiedName = true) :
    Announced naming unit declaration (naming.fullName (.declared package name sort)) := by
  obtain ⟨counterpart, found⟩ := Option.isSome_iff_exists.mp mapped
  have name_eq :
      naming.fullName (.declared package name sort) = counterpart.targetName := by
    simp [Naming.fullName, Foundation.targetName?, found]
  rw [name_eq]
  apply announced_of_free
  apply List.mem_append_left
  exact List.mem_map_of_mem (List.mem_of_find?_eq_some found)

/-! ## Uses -/

theorem extendedPiece_name?_of_mention {type : TypeRef} {name : String}
    (named : name ∈ (naming.mention type).names) :
    (naming.extendedPiece type).name? = some name := by
  cases type with
  | primitive package name type => cases named
  | unbounded package name => cases named
  | bounded package name bound => cases named
  | array package arrayName element =>
      obtain rfl : name = Naming.arrayClass element := by
        simpa [Naming.mention, Mention.names, Mention.pieces] using named
      rfl
  | declared package typeName sort =>
      simp only [Naming.mention] at named
      split at named
      · cases named
      · obtain rfl : name = naming.fullName (.declared package typeName sort) := by
          split at named <;> simpa [Mention.names, Mention.pieces, Mention.base] using named
        rfl

/-- A mention of a type announces the name it uses. -/
theorem announced_of_mention (declared : declaration ∈ unit.declarations) {type : TypeRef}
    {name : String} (mentioned : type ∈ declaration.mentionedTypes)
    (named : name ∈ (naming.mention type).names) : Announced naming unit declaration name := by
  have mentionedType : MentionedType unit type :=
    (mem_mentionedTypes_iff unit type).mp ⟨declaration, declared, mentioned⟩
  have named := extendedPiece_name?_of_mention named
  cases type with
  | primitive package name type => cases named
  | unbounded package name => cases named
  | bounded package name bound => cases named
  | array package arrayName element =>
      cases named
      exact announced_of_mentioned (.reference mentionedType (.array package arrayName element))
  | declared package typeName sort =>
      cases named
      cases mapped_eq : Foundation.isMapped (TypeRef.declared package typeName sort).qualifiedName with
      | true => exact announced_of_mapped mapped_eq
      | false => exact announced_of_mentioned (.reference mentionedType (.declared mapped_eq))

theorem superTypeImport_of_written (declared : declaration ∈ unit.declarations) {type : TypeRef}
    (written : type ∈ declaration.writtenSuperTypes)
    (unmapped : Foundation.isMapped type.qualifiedName = false) :
    SuperTypeImport naming unit (.ofDeclared naming type) := by
  cases declaration with
  | ofType declaration =>
      rcases List.mem_append.mp written with extended | adopted
      · split at extended
        · cases extended
        · exact .superclass declared (Option.mem_toList.mp extended) unmapped
      · exact .interface declared adopted unmapped
  | ofEnum declaration =>
      exact .enumInterface declared (List.mem_filter.mp written).1 unmapped
  | ofAnnotationType declaration => cases written

/-- The name of a type to extend is announced, unless it is an array that escapes. -/
theorem announced_or_escapes_of_superType (declared : declaration ∈ unit.declarations)
    {type : TypeRef} {name : String} (written : type ∈ declaration.writtenSuperTypes)
    (named : (naming.extendedPiece type).name? = some name) :
    Announced naming unit declaration name ∨ declaration.Escapes naming name := by
  have name_eq : name = naming.fullName type := by
    cases type <;> cases named <;> rfl
  cases mapped_eq : Foundation.isMapped type.qualifiedName with
  | false =>
      rw [name_eq]
      exact Or.inl (announced_of_superType (superTypeImport_of_written declared written mapped_eq))
  | true =>
      cases type with
      | primitive package name type => cases named
      | unbounded package name => cases named
      | bounded package name bound => cases named
      | array package arrayName element =>
          rw [name_eq]
          exact Or.inr (.array written mapped_eq)
      | declared package typeName sort =>
          rw [name_eq]
          exact Or.inl (announced_of_mapped mapped_eq)

theorem mem_mentionedTypes_of_resolvedTypes {type : TypeRef}
    (written : type ∈ declaration.resolvedTypes) : type ∈ declaration.mentionedTypes := by
  cases declaration with
  | ofType declaration =>
      simp only [Declaration.resolvedTypes] at written
      split at written
      · cases written
      · obtain ⟨field, field_mem, rfl⟩ := List.mem_map.mp written
        exact Declaration.field_mem_mentionedTypes (List.mem_filter.mp field_mem).1
  | ofEnum declaration =>
      obtain ⟨field, field_mem, rfl⟩ := List.mem_map.mp written
      exact Declaration.field_mem_mentionedTypes (List.mem_filter.mp field_mem).1
  | ofAnnotationType declaration =>
      simp only [Declaration.resolvedTypes] at written
      split at written
      · obtain ⟨member, member_mem, rfl⟩ := List.mem_map.mp written
        exact Declaration.member_mem_mentionedTypes member_mem
      · cases written

/-- A type written with its type variables resolved is announced, unless it is itself a type variable:
then its bound escapes. -/
theorem announced_or_escapes_of_resolved (declared : declaration ∈ unit.declarations)
    {type : TypeRef} {name : String} (written : type ∈ declaration.resolvedTypes)
    (named : name ∈ (naming.mention type.resolved).names) :
    Announced naming unit declaration name ∨ declaration.Escapes naming name := by
  have mentioned := mem_mentionedTypes_of_resolvedTypes written
  cases type with
  | bounded package variableName bound => exact Or.inr (.bound written named)
  | primitive package name type => exact Or.inl (announced_of_mention declared mentioned named)
  | declared package name sort => exact Or.inl (announced_of_mention declared mentioned named)
  | array package name element => exact Or.inl (announced_of_mention declared mentioned named)
  | unbounded package name => exact Or.inl (announced_of_mention declared mentioned named)

theorem announced_of_base (declared : declaration ∈ unit.declarations) {name : String}
    (base_mem : name ∈ declaration.baseNames) : Announced naming unit declaration name := by
  cases declaration with
  | ofType declaration =>
      simp only [Declaration.baseNames, List.mem_cons, List.not_mem_nil, or_false] at base_mem
      rcases base_mem with rfl | rfl
      · exact announced_of_free (List.mem_append_left _ (by decide))
      · exact announced_of_free (List.mem_append_right _ List.mem_cons_self)
  | ofEnum declaration =>
      simp only [Declaration.baseNames, List.mem_cons, List.not_mem_nil, or_false] at base_mem
      rcases base_mem with rfl | rfl | rfl | rfl | rfl
      · exact announced_of_superType (.enumBase declared)
      · exact announced_of_free (List.mem_append_left _ (by decide))
      · exact announced_of_mentioned (.objectArray declared)
      · exact announced_of_free (List.mem_append_left _ (by decide))
      · exact announced_of_free
          (List.mem_append_right _ (List.mem_cons_of_mem _ List.mem_cons_self))
  | ofAnnotationType declaration =>
      simp only [Declaration.baseNames, List.mem_cons, List.not_mem_nil, or_false] at base_mem
      rcases base_mem with rfl | rfl
      · exact announced_of_free (List.mem_append_left _ (by decide))
      · exact announced_of_superType (.annotationProtocol declared)

/-- Whatever a declaration uses is announced or escapes. -/
theorem announced_or_escapes_of_uses (declared : declaration ∈ unit.declarations) {name : String}
    (uses : declaration.Uses naming name) :
    Announced naming unit declaration name ∨ declaration.Escapes naming name := by
  cases uses with
  | superType written named => exact announced_or_escapes_of_superType declared written named
  | resolved written named => exact announced_or_escapes_of_resolved declared written named
  | mentioned mentioned named => exact Or.inl (announced_of_mention declared mentioned named)
  | own =>
      apply Or.inl
      apply announced_of_free
      apply List.mem_append_right
      simp
  | base base_mem => exact Or.inl (announced_of_base declared base_mem)

end

namespace Header

open MarkedStep (eraseAll namesOf)

theorem mem_namesOf_body_of_escapes {context : Context} {declaration : Declaration}
    {name : String} (filled : ∀ field ∈ declaration.fields, field.fragments ≠ [])
    (shared : Marked.SharesTypes declaration.fields)
    (escapes : declaration.Escapes context.naming name) :
    name ∈ namesOf (Marked.body context declaration) := by
  cases escapes with
  | bound written named => exact Marked.mem_namesOf_body_of_resolved filled shared written named
  | array written mapped => exact Marked.mem_namesOf_body_of_superType written rfl

/-- Without its marks, the marked header of a unit without a fault is its header. -/
theorem eraseAll_unitSteps {context : Context} {unit : SourceUnit}
    (sound : ∀ declaration ∈ unit.declarations, (opening context declaration).fault = none) :
    eraseAll (Marked.unitSteps context unit) = (unitEmission context unit).steps := by
  have parts_eq : ∀ declaration ∈ unit.declarations,
      .newline :: (opening context declaration).steps
          ++ eraseAll (Marked.body context declaration) =
        .newline :: (declarationEmission context declaration).steps := by
    intro declaration declared
    have filled := fragments_ne_nil_of_opening (sound declaration declared)
    rw [declarationEmission_of_sound (sound declaration declared),
      Marked.eraseAll_body context filled]
    rfl
  rw [unitEmission_steps_of_sound sound]
  simp only [Marked.unitSteps, MarkedStep.eraseAll_append, MarkedStep.eraseAll_unmarked,
    MarkedStep.eraseAll_flatMap, List.append_assoc]
  rw [List.flatMap_congr parts_eq]

theorem mem_namesOf_unitSteps_iff (context : Context) (unit : SourceUnit) (name : String) :
    name ∈ namesOf (Marked.unitSteps context unit) ↔
      ∃ declaration ∈ unit.declarations, name ∈ namesOf (Marked.body context declaration) := by
  simp [Marked.unitSteps, MarkedStep.namesOf_flatMap]

/-- A header announces all the types that its declarations use if and only if it announces those that
escape. -/
theorem generate_announced_iff (context : Context) (unit : SourceUnit) (text : String)
    (shared : ∀ declaration ∈ unit.declarations, Marked.SharesTypes declaration.fields)
    (generated : generate context unit = .ok text) :
    text = written context (eraseAll (Marked.unitSteps context unit)) ∧
      (∀ name, name ∈ namesOf (Marked.unitSteps context unit) ↔
        ∃ declaration ∈ unit.declarations, name ∈ namesOf (Marked.body context declaration)) ∧
      (∀ declaration ∈ unit.declarations, ∀ name,
        name ∈ namesOf (Marked.body context declaration) ∧
            ¬Announced context.naming unit declaration name ↔
          declaration.Escapes context.naming name ∧
            ¬Announced context.naming unit declaration name) ∧
      ((∀ declaration ∈ unit.declarations, ∀ name ∈ namesOf (Marked.body context declaration),
          Announced context.naming unit declaration name) ↔
        ∀ declaration ∈ unit.declarations, ∀ name, declaration.Escapes context.naming name →
          Announced context.naming unit declaration name) := by
  obtain ⟨sound, text_eq⟩ := (generate_eq_ok_iff context unit text).mp generated
  have announced_or_escapes : ∀ declaration ∈ unit.declarations,
      ∀ name ∈ namesOf (Marked.body context declaration),
        Announced context.naming unit declaration name ∨
          declaration.Escapes context.naming name := by
    intro declaration declared name name_mem
    have filled := fragments_ne_nil_of_opening (sound declaration declared)
    exact announced_or_escapes_of_uses declared
      (Marked.uses_of_body filled (shared declaration declared) name_mem)
  have used_of_escapes : ∀ declaration ∈ unit.declarations, ∀ name,
      declaration.Escapes context.naming name →
        name ∈ namesOf (Marked.body context declaration) := by
    intro declaration declared name escapes
    have filled := fragments_ne_nil_of_opening (sound declaration declared)
    exact mem_namesOf_body_of_escapes filled (shared declaration declared) escapes
  refine ⟨?_, mem_namesOf_unitSteps_iff context unit, ?_, ?_⟩
  · rw [eraseAll_unitSteps sound]
    exact text_eq
  · intro declaration declared name
    refine and_congr_left fun unannounced => ⟨fun name_mem => ?_, ?_⟩
    · exact (announced_or_escapes declaration declared name name_mem).resolve_left unannounced
    · exact used_of_escapes declaration declared name
  · constructor
    · intro all_announced declaration declared name escapes
      exact all_announced declaration declared name
        (used_of_escapes declaration declared name escapes)
    · intro escapes_announced declaration declared name name_mem
      rcases announced_or_escapes declaration declared name name_mem with announced | escapes
      · exact announced
      · exact escapes_announced declaration declared name escapes

/-- A class whose objects have a variable of the type of a type variable with a bound, and the given
other fields. -/
def boundedUnit (others : List Field) : SourceUnit :=
  let type := TypeRef.bounded "" "T" (.declared "" "Bar" .classType)
  { sourceFile := "Foo.java"
    declarations :=
      [.ofType
        { type := .declared "" "Foo" .classType
          fields := { type, fragments := [{ name := "item", type }] } :: others }] }

/-- The bound of a type variable is announced if another field mentions it. -/
def mentionedBoundUnit : SourceUnit :=
  let type := TypeRef.declared "" "Bar" .classType
  boundedUnit [{ type, fragments := [{ name := "other", type }] }]

theorem generate_announced_iff_of_mentioned_bound :
    (∀ declaration ∈ mentionedBoundUnit.declarations, Marked.SharesTypes declaration.fields) ∧
      ∃ text, generate {} mentionedBoundUnit = .ok text ∧
        text = written {} (eraseAll (Marked.unitSteps {} mentionedBoundUnit)) ∧
        ∀ declaration ∈ mentionedBoundUnit.declarations,
          declaration.Escapes {} "Bar" ∧
            ∀ name, declaration.Escapes {} name →
              Announced {} mentionedBoundUnit declaration name := by
  have shared :
      ∀ declaration ∈ mentionedBoundUnit.declarations, Marked.SharesTypes declaration.fields := by
    unfold Marked.SharesTypes
    decide
  have all_announced : ∀ declaration ∈ mentionedBoundUnit.declarations,
      ∀ name ∈ namesOf (Marked.body {} declaration),
        Announced {} mentionedBoundUnit declaration name := by
    decide
  obtain ⟨text_eq, _, _, announced_iff⟩ :=
    generate_announced_iff {} mentionedBoundUnit _ shared rfl
  refine ⟨shared, _, rfl, text_eq, fun declaration declared => ⟨?_, ?_⟩⟩
  · obtain rfl := List.mem_singleton.mp declared
    exact .bound List.mem_cons_self List.mem_cons_self
  · exact announced_iff.mp all_announced declaration declared

/-- Alone, a variable of the type of a type variable uses the bound without its being announced. -/
theorem bound_not_announced :
    (∀ declaration ∈ (boundedUnit []).declarations, Marked.SharesTypes declaration.fields) ∧
      (∃ text, generate {} (boundedUnit []) = .ok text) ∧
      ∃ declaration ∈ (boundedUnit []).declarations,
        "Bar" ∈ namesOf (Marked.body {} declaration) ∧
          ¬Announced {} (boundedUnit []) declaration "Bar" := by
  refine ⟨?_, ⟨_, rfl⟩, by decide⟩
  unfold Marked.SharesTypes
  decide

end Header

end HeaderForge
