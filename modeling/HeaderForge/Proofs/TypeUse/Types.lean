import HeaderForge.Header.Members
import HeaderForge.Proofs.TypeUse.Marking

/-!
# Types in use

The types of variables, parameters and results, as marked texts. A type uses at most one other type by
name: the class its values point to, or the protocol they adopt.
-/

namespace HeaderForge

/-- A type of values, by the type that it uses. -/
inductive Mention where
  /-- A type that uses no other. -/
  | silent (text : String)
  /-- Pointers to objects of a class. -/
  | pointer (className : String)
  /-- Pointers to objects that adopt a protocol. -/
  | adopter (protocolName : String)
deriving DecidableEq, Repr

namespace Mention

/-- The type as written, but for the asterisk of a pointer and the space before it. -/
def base : Mention → List Piece
  | silent text => [.plain text]
  | pointer className => [.typeName className]
  | adopter protocolName => [.plain "id<", .typeName protocolName, .plain ">"]

/-- The type as written. -/
def pieces : Mention → List Piece
  | pointer className => [.typeName className, .plain " *"]
  | mention => mention.base

/-- The type that is used. -/
def names (mention : Mention) : List String := Piece.namesOf mention.pieces

@[simp] theorem namesOf_pieces (mention : Mention) :
    Piece.namesOf mention.pieces = mention.names := rfl

@[simp] theorem namesOf_base (mention : Mention) :
    Piece.namesOf mention.base = mention.names := by
  cases mention <;> rfl

end Mention

/-- The type that a type variable stands for in the end, if it has a bound. -/
def TypeRef.resolved : TypeRef → TypeRef
  | bounded _ _ bound => bound.resolved
  | type => type

namespace Naming

/-- The mention of a type as the type of values. -/
def mention (naming : Naming) (type : TypeRef) : Mention :=
  match type with
  | .primitive _ _ type => .silent type.targetName
  | .array _ _ element => .pointer (arrayClass element)
  | .unbounded _ _ => .silent "id"
  | .bounded _ _ _ => .silent "id"
  | .declared _ _ _ =>
    if type.qualifiedName = Foundation.objectName then .silent "id"
    else if type.isProtocol || Foundation.isProtocol type.qualifiedName then
      .adopter (naming.fullName type)
    else .pointer (naming.fullName type)

/-- The name of a type that is extended or adopted. Only classes and protocols have names of their
own. -/
def extendedPiece (naming : Naming) (type : TypeRef) : Piece :=
  match type with
  | .array _ _ _ => .typeName (naming.fullName type)
  | .declared _ _ _ => .typeName (naming.fullName type)
  | _ => .plain (naming.fullName type)

@[simp] theorem text_extendedPiece (naming : Naming) (type : TypeRef) :
    (naming.extendedPiece type).text = naming.fullName type := by
  cases type <;> rfl

@[simp] theorem textOf_mention (naming : Naming) (type : TypeRef) :
    Piece.textOf (naming.mention type).pieces = naming.variableType type := by
  cases type with
  | primitive package name type => simp [mention, Mention.pieces, Mention.base, variableType]
  | array package name element =>
      simp [mention, Mention.pieces, variableType, fullName, pointer]
  | unbounded package name => rfl
  | bounded package name bound => rfl
  | declared package name sort =>
      simp only [mention, variableType]
      split
      · rfl
      · split
        · simp [Mention.pieces, Mention.base, adopter, String.append_assoc]
        · simp [Mention.pieces, pointer]

theorem specificType_eq_resolved (naming : Naming) (type : TypeRef) :
    naming.specificType type = naming.variableType type.resolved := by
  induction type with
  | bounded package name bound ih => exact ih
  | primitive package name type => rfl
  | declared package name sort => rfl
  | array package name element => rfl
  | unbounded package name => rfl

end Naming

/-! ## Asterisks -/

section

open Header (isObjectType needsAsterisk)

theorem endsWith_append_singleton (text mark ending : String) (last final : Char)
    (mark_eq : mark.toList.getLast? = some last) (ending_eq : ending.toList = [final]) :
    Text.endsWith (text ++ mark) ending = (last == final) := by
  rw [Bool.eq_iff_iff]
  simp [Text.endsWith, ending_eq, List.singleton_suffix_iff_getLast?_eq_some, mark_eq]

theorem getLast?_pointer (className : String) :
    (Naming.pointer className).toList.getLast? = some '*' := by
  simp [Naming.pointer]

theorem pointer_ne_of_getLast? {text : String} (differs : text.toList.getLast? ≠ some '*')
    (className : String) : Naming.pointer className ≠ text := by
  rintro rfl
  exact differs (getLast?_pointer className)

theorem isObjectType_pointer (className : String) :
    isObjectType (Naming.pointer className) = false := by
  have not_id : (Naming.pointer className == "id") = false :=
    beq_false_of_ne (pointer_ne_of_getLast? (by decide) className)
  have not_class : (Naming.pointer className == "Class") = false :=
    beq_false_of_ne (pointer_ne_of_getLast? (by decide) className)
  have open_end : Text.endsWith (Naming.pointer className) ">" = false :=
    endsWith_append_singleton className " *" ">" '*' '>' rfl rfl
  rw [isObjectType, not_id, not_class, open_end]
  simp

theorem isObjectType_adopter (protocolName : String) :
    isObjectType (Naming.adopter protocolName) = true := by
  have starts : Text.startsWith (Naming.adopter protocolName) "id<" = true := by
    simp [Text.startsWith, Naming.adopter, List.isPrefixOf]
  have ends : Text.endsWith (Naming.adopter protocolName) ">" = true :=
    endsWith_append_singleton ("id<" ++ protocolName) ">" ">" '>' '>' rfl rfl
  simp [isObjectType, starts, ends]

theorem dropEnding_pointer (className : String) :
    Text.dropEnding " *" (Naming.pointer className) = className := by
  simp [Text.dropEnding, Text.endsWith, Naming.pointer]

theorem dropEnding_silent {naming : Naming} {type : TypeRef} {text : String}
    (silent : naming.mention type = .silent text) : Text.dropEnding " *" text = text := by
  cases type with
  | primitive package name type =>
      cases silent
      cases type <;> rfl
  | array package name element => cases silent
  | unbounded package name =>
      cases silent
      rfl
  | bounded package name bound =>
      cases silent
      rfl
  | declared package name sort =>
      simp only [Naming.mention] at silent
      split at silent
      · cases silent
        rfl
      · split at silent <;> cases silent

theorem isPrimitive_of_pointer {naming : Naming} {type : TypeRef} {className : String}
    (pointer : naming.mention type.resolved = .pointer className) : type.isPrimitive = false := by
  cases type with
  | primitive package name type => cases pointer
  | array package name element => rfl
  | unbounded package name => rfl
  | bounded package name bound => rfl
  | declared package name sort => rfl

/-- Before names with asterisks, a type is written without its own. -/
theorem textOf_base (naming : Naming) (type : TypeRef) :
    Piece.textOf (naming.mention type.resolved).base =
      if needsAsterisk type (naming.specificType type) then
        Text.dropEnding " *" (naming.specificType type)
      else naming.specificType type := by
  rw [naming.specificType_eq_resolved, ← naming.textOf_mention]
  cases mention_eq : naming.mention type.resolved with
  | silent text =>
      -- A bound that is primitive does need an asterisk, but has none of its own to drop.
      simp [Mention.base, Mention.pieces, dropEnding_silent mention_eq]
  | pointer className =>
      have text_eq : Piece.textOf (Mention.pointer className).pieces = Naming.pointer className := by
        simp [Mention.pieces, Naming.pointer]
      simp [text_eq, needsAsterisk, isPrimitive_of_pointer mention_eq, isObjectType_pointer,
        dropEnding_pointer, Mention.base]
  | adopter protocolName =>
      have text_eq :
          Piece.textOf (Mention.adopter protocolName).pieces = Naming.adopter protocolName := by
        simp [Mention.pieces, Mention.base, Naming.adopter, String.append_assoc]
      simp [text_eq, needsAsterisk, isObjectType_adopter]
      exact text_eq

end

/-! ## Slots -/

namespace Naming

/-- A part of a method declaration, with the type itself of its parameter. -/
structure TypedSlot where
  /-- The keyword. -/
  keyword : String
  /-- The parameter's type. -/
  type : TypeRef
  /-- The parameter's name. -/
  name : String
deriving DecidableEq, Repr

/-- The part with the text of its type. -/
def TypedSlot.slot (naming : Naming) (slot : TypedSlot) : Slot :=
  ⟨slot.keyword, naming.variableType slot.type, slot.name⟩

/-- The part as written. -/
def TypedSlot.pieces (naming : Naming) (slot : TypedSlot) : List Piece :=
  .plain (slot.keyword ++ ":(") :: (naming.mention slot.type).pieces ++ [.plain (")" ++ slot.name)]

/-- Parts as written, one after the other. -/
def slotPieces (naming : Naming) (slots : List TypedSlot) : List Piece :=
  Piece.separated " " (slots.map (TypedSlot.pieces naming))

theorem TypedSlot.textOf_pieces (naming : Naming) (slot : TypedSlot) :
    Piece.textOf (slot.pieces naming) = (slot.slot naming).render := by
  simp [pieces, TypedSlot.slot, Slot.render, String.append_assoc]

@[simp] theorem textOf_slotPieces (naming : Naming) (slots : List TypedSlot) :
    Piece.textOf (naming.slotPieces slots) = renderSlots (slots.map (TypedSlot.slot naming)) := by
  simp [slotPieces, renderSlots, TypedSlot.textOf_pieces, Function.comp_def]

@[simp] theorem namesOf_slotPieces (naming : Naming) (slots : List TypedSlot) :
    Piece.namesOf (naming.slotPieces slots) =
      slots.flatMap fun slot => (naming.mention slot.type).names := by
  simp [slotPieces, TypedSlot.pieces, List.flatMap_map]

/-- The part of a parameter, with a word before its type's keyword. -/
def typedParameterSlot (naming : Naming) (lead : String) (parameter : Parameter) : TypedSlot :=
  ⟨lead ++ naming.typeKeyword parameter.type, parameter.type, parameter.name⟩

/-- The parts of the parameters. -/
def typedParameterSlots (naming : Naming) : List Parameter → List TypedSlot
  | [] => []
  | first :: rest =>
    naming.typedParameterSlot "With" first :: rest.map (naming.typedParameterSlot "with")

/-- The parts of a method whose keywords are given. -/
def typedMappedSlots (selector : String) (parameters : List Parameter) : List TypedSlot :=
  List.zipWith (fun keyword parameter => ⟨keyword, parameter.type, parameter.name⟩)
    (selectorKeywords selector) parameters

/-- The parts of annotation members in the constructor. -/
def typedMemberSlots : List AnnotationMember → List TypedSlot
  | [] => []
  | first :: rest =>
    ⟨"With" ++ Text.capitalize first.name, first.type, first.name ++ "_"⟩
      :: rest.map fun member => ⟨member.name, member.type, member.name ++ "_"⟩

@[simp] theorem map_typedParameterSlots (naming : Naming) (parameters : List Parameter) :
    (naming.typedParameterSlots parameters).map (TypedSlot.slot naming) =
      naming.parameterSlots parameters := by
  cases parameters with
  | nil => rfl
  | cons first rest =>
      simp [typedParameterSlots, parameterSlots, typedParameterSlot, parameterSlot, TypedSlot.slot]

@[simp] theorem map_typedMappedSlots (naming : Naming) (selector : String)
    (parameters : List Parameter) :
    (typedMappedSlots selector parameters).map (TypedSlot.slot naming) =
      naming.mappedSlots selector parameters := by
  simp [typedMappedSlots, mappedSlots, TypedSlot.slot, List.map_zipWith]

@[simp] theorem map_typedMemberSlots (naming : Naming) (members : List AnnotationMember) :
    (typedMemberSlots members).map (TypedSlot.slot naming) = naming.memberSlots members := by
  cases members with
  | nil => rfl
  | cons first rest => simp [typedMemberSlots, memberSlots, memberSlot, TypedSlot.slot]

theorem mem_typedParameterSlots_type {naming : Naming} {parameters : List Parameter}
    {slot : TypedSlot} (slot_mem : slot ∈ naming.typedParameterSlots parameters) :
    ∃ parameter ∈ parameters, slot.type = parameter.type := by
  cases parameters with
  | nil => cases slot_mem
  | cons first rest =>
      rcases List.mem_cons.mp slot_mem with rfl | slot_mem
      · exact ⟨first, List.mem_cons_self, rfl⟩
      · obtain ⟨parameter, parameter_mem, rfl⟩ := List.mem_map.mp slot_mem
        exact ⟨parameter, List.mem_cons_of_mem first parameter_mem, rfl⟩

theorem mem_typedMappedSlots_type {selector : String} {parameters : List Parameter}
    {slot : TypedSlot} (slot_mem : slot ∈ typedMappedSlots selector parameters) :
    ∃ parameter ∈ parameters, slot.type = parameter.type := by
  rw [typedMappedSlots, ← List.map_uncurry_zip_eq_zipWith] at slot_mem
  obtain ⟨⟨keyword, parameter⟩, pair_mem, rfl⟩ := List.mem_map.mp slot_mem
  exact ⟨parameter, (List.of_mem_zip pair_mem).2, rfl⟩

theorem mem_typedMemberSlots_type {members : List AnnotationMember} {slot : TypedSlot}
    (slot_mem : slot ∈ typedMemberSlots members) :
    ∃ member ∈ members, slot.type = member.type := by
  cases members with
  | nil => cases slot_mem
  | cons first rest =>
      rcases List.mem_cons.mp slot_mem with rfl | slot_mem
      · exact ⟨first, List.mem_cons_self, rfl⟩
      · obtain ⟨member, member_mem, rfl⟩ := List.mem_map.mp slot_mem
        exact ⟨member, List.mem_cons_of_mem first member_mem, rfl⟩

end Naming

end HeaderForge
