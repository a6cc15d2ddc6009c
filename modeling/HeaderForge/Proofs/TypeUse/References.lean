import HeaderForge.Proofs.Dependencies
import HeaderForge.Proofs.TypeUse.Types

/-!
# References and their imports

A type is written where values have it, and is declared to exist where the header that declares it is
another one. Both are decided by what the type is, each by a test of its own. They fit together: what is
declared as a class is written as a pointer to its objects, what is declared as a protocol as a pointer
to objects that adopt it, and what is not declared is the target's own.
-/

namespace HeaderForge

/-- Whether the type is declared by another header: all arrays are, and the declared types that have no
counterpart. -/
def TypeRef.isForeign (type : TypeRef) : Bool :=
  type.isArray || (type.sort?.isSome && !Foundation.isMapped type.qualifiedName)

/-- The type of variables that hold values of the imported type. -/
def Import.variableType (entry : Import) : String :=
  if entry.isProtocol then Naming.adopter entry.typeName else Naming.pointer entry.typeName

namespace Foundation

theorem isMapped_of_isProtocol {qualifiedName : String}
    (protocol : isProtocol qualifiedName = true) : isMapped qualifiedName = true := by
  unfold isProtocol at protocol
  unfold isMapped
  cases found : counterpart? qualifiedName with
  | none => simp [found] at protocol
  | some counterpart => rfl

theorem isMapped_objectName : isMapped objectName = true := by decide

end Foundation

/-! ## The two tests -/

section

variable (naming : Naming)

theorem variableType_of_unmapped {package name : String} {sort : TypeSort}
    (unmapped : Foundation.isMapped (TypeRef.declared package name sort).qualifiedName = false) :
    naming.variableType (.declared package name sort) =
      (Import.ofDeclared naming (.declared package name sort)).variableType := by
  have not_object : (TypeRef.declared package name sort).qualifiedName ≠ Foundation.objectName := by
    intro object
    rw [object, Foundation.isMapped_objectName] at unmapped
    cases unmapped
  have not_protocol :
      Foundation.isProtocol (TypeRef.declared package name sort).qualifiedName = false := by
    rw [← Bool.not_eq_true]
    intro protocol
    rw [Foundation.isMapped_of_isProtocol protocol] at unmapped
    cases unmapped
  simp only [Naming.variableType, if_neg not_object, not_protocol, Bool.or_false]
  rfl

/-- A type of another header has an import, which tells how the type is written. -/
theorem exists_ofReference_of_foreign {type : TypeRef} (foreign : type.isForeign = true) :
    ∃ entry, Import.ofReference naming type = some entry ∧
      naming.variableType type = entry.variableType := by
  cases type with
  | primitive package name type => cases foreign
  | unbounded package name => cases foreign
  | bounded package name bound => cases foreign
  | array package name element => exact ⟨_, rfl, rfl⟩
  | declared package name sort =>
      have unmapped :
          Foundation.isMapped (TypeRef.declared package name sort).qualifiedName = false := by
        simpa [TypeRef.isForeign, TypeRef.isArray, TypeRef.sort?] using foreign
      exact ⟨_, (ofReference_eq_some_iff naming _ _).mpr (.declared unmapped),
        variableType_of_unmapped naming unmapped⟩

theorem ofReference_of_not_foreign {type : TypeRef} (not_foreign : type.isForeign = false) :
    Import.ofReference naming type = none := by
  cases type with
  | primitive package name type => rfl
  | unbounded package name => rfl
  | bounded package name bound => rfl
  | array package name element => cases not_foreign
  | declared package name sort =>
      have mapped :
          Foundation.isMapped (TypeRef.declared package name sort).qualifiedName = true := by
        simpa [TypeRef.isForeign, TypeRef.isArray, TypeRef.sort?] using not_foreign
      simp [Import.ofReference, mapped]

/-- The ways in which a type that no other header declares is written. -/
inductive WrittenAlone (type : TypeRef) : String → Prop
  | primitive {primitive : Primitive} (is_primitive : type.primitive? = some primitive) :
      WrittenAlone type primitive.targetName
  | object (any_object : type.sort? = none ∨ type.qualifiedName = Foundation.objectName) :
      WrittenAlone type "id"
  | adopter {counterpart : Foundation.Counterpart}
      (found : Foundation.counterpart? type.qualifiedName = some counterpart)
      (protocol : type.isProtocol = true ∨ counterpart.isProtocol = true) :
      WrittenAlone type ("id<" ++ counterpart.targetName ++ ">")
  | pointer {counterpart : Foundation.Counterpart}
      (found : Foundation.counterpart? type.qualifiedName = some counterpart)
      (no_protocol : type.isProtocol = false ∧ counterpart.isProtocol = false) :
      WrittenAlone type (counterpart.targetName ++ " *")

theorem writtenAlone_of_mapped {package name : String} {sort : TypeSort}
    (mapped : Foundation.isMapped (TypeRef.declared package name sort).qualifiedName = true) :
    WrittenAlone (.declared package name sort) (naming.variableType (.declared package name sort)) := by
  obtain ⟨counterpart, found⟩ := Option.isSome_iff_exists.mp mapped
  have name_eq : naming.fullName (.declared package name sort) = counterpart.targetName := by
    simp [Naming.fullName, Foundation.targetName?, found]
  have protocol_eq : Foundation.isProtocol (TypeRef.declared package name sort).qualifiedName =
      counterpart.isProtocol := by
    rw [Foundation.isProtocol, found, Option.any_some]
  simp only [Naming.variableType, name_eq, protocol_eq]
  split_ifs with object protocol
  · exact .object (Or.inr object)
  · exact .adopter found (Bool.or_eq_true_iff.mp protocol)
  · exact .pointer found (Bool.or_eq_false_iff.mp (Bool.not_eq_true _ ▸ protocol))

theorem writtenAlone_of_not_foreign {type : TypeRef} (not_foreign : type.isForeign = false) :
    WrittenAlone type (naming.variableType type) := by
  cases type with
  | primitive package name type => exact .primitive rfl
  | unbounded package name => exact .object (Or.inl rfl)
  | bounded package name bound => exact .object (Or.inl rfl)
  | array package name element => cases not_foreign
  | declared package name sort =>
      apply writtenAlone_of_mapped
      simpa [TypeRef.isForeign, TypeRef.isArray, TypeRef.sort?] using not_foreign

end

/-! ## Reading the test off the text -/

theorem getLast?_adopter (protocolName : String) :
    (Naming.adopter protocolName).toList.getLast? = some '>' := by
  have chars_eq : (Naming.adopter protocolName).toList = ("id<" ++ protocolName).toList ++ ['>'] := by
    simp [Naming.adopter]
  rw [chars_eq, List.getLast?_concat]

theorem adopter_injective : Function.Injective Naming.adopter := by
  intro first second same
  rwa [Naming.adopter, Naming.adopter, String.append_left_inj, String.append_right_inj] at same

theorem pointer_injective : Function.Injective Naming.pointer := by
  intro first second same
  rwa [Naming.pointer, Naming.pointer, String.append_left_inj] at same

theorem adopter_ne_pointer (protocolName className : String) :
    Naming.adopter protocolName ≠ Naming.pointer className := by
  apply Ne.symm
  apply pointer_ne_of_getLast?
  rw [getLast?_adopter]
  decide

/-- Where a type of no other header is a pointer or an adopter, its counterpart is named. -/
theorem WrittenAlone.targetName?_eq {type : TypeRef} {text : String} (alone : WrittenAlone type text)
    {name : String} (named : text = Naming.adopter name ∨ text = Naming.pointer name) :
    Foundation.targetName? type.qualifiedName = some name := by
  have last_named : text.toList.getLast? = some '>' ∨ text.toList.getLast? = some '*' := by
    rcases named with rfl | rfl
    · exact Or.inl (getLast?_adopter name)
    · exact Or.inr (getLast?_pointer name)
  cases alone with
  | @primitive primitive is_primitive =>
      exfalso
      revert last_named
      cases primitive <;> decide
  | object any_object =>
      exfalso
      revert last_named
      decide
  | @adopter counterpart found protocol =>
      rw [Foundation.targetName?, found, Option.map_some]
      rcases named with same | same
      · rw [adopter_injective same]
      · exact absurd same (adopter_ne_pointer _ _)
  | @pointer counterpart found no_protocol =>
      rw [Foundation.targetName?, found, Option.map_some]
      rcases named with same | same
      · exact absurd same.symm (adopter_ne_pointer _ _)
      · rw [pointer_injective same]

theorem forwardDeclaration_of_adopter {entry : Import} {name : String}
    (adopted : entry.variableType = Naming.adopter name) :
    entry.forwardDeclaration = "@protocol " ++ name ++ ";" := by
  cases protocol : entry.isProtocol with
  | true =>
      rw [Import.variableType, if_pos protocol] at adopted
      rw [Import.forwardDeclaration, if_pos protocol, adopter_injective adopted]
  | false =>
      rw [Import.variableType, protocol] at adopted
      exact absurd adopted.symm (adopter_ne_pointer _ _)

theorem forwardDeclaration_of_pointer {entry : Import} {name : String}
    (pointed : entry.variableType = Naming.pointer name) :
    entry.forwardDeclaration = "@class " ++ name ++ ";" := by
  cases protocol : entry.isProtocol with
  | true =>
      rw [Import.variableType, if_pos protocol] at pointed
      exact absurd pointed (adopter_ne_pointer _ _)
  | false =>
      have class_eq : entry.variableType = Naming.pointer entry.typeName := by
        rw [Import.variableType, protocol]
        rfl
      rw [Import.forwardDeclaration, protocol, pointer_injective (class_eq.symm.trans pointed)]
      rfl

/-! ## Agreement -/

/-- A type of another header needs one import, which agrees with how the type is written: as the adopter
of a protocol or as a pointer to a class. -/
theorem ofReference_agrees (naming : Naming) (type : TypeRef) :
    (type.isArray = true ∨
        type.sort?.isSome = true ∧ Foundation.isMapped type.qualifiedName = false →
      ∃ entry, Import.ofReference naming type = some entry ∧
        naming.variableType type =
          if entry.isProtocol then "id<" ++ entry.typeName ++ ">" else entry.typeName ++ " *") ∧
      (¬(type.isArray = true ∨
          type.sort?.isSome = true ∧ Foundation.isMapped type.qualifiedName = false) →
        Import.ofReference naming type = none ∧ WrittenAlone type (naming.variableType type)) ∧
      (∀ name, naming.variableType type = "id<" ++ name ++ ">" →
        Foundation.targetName? type.qualifiedName = some name ∨
          ∃ entry, Import.ofReference naming type = some entry ∧
            entry.forwardDeclaration = "@protocol " ++ name ++ ";") ∧
      (∀ name, naming.variableType type = name ++ " *" →
        Foundation.targetName? type.qualifiedName = some name ∨
          ∃ entry, Import.ofReference naming type = some entry ∧
            entry.forwardDeclaration = "@class " ++ name ++ ";") ∧
      ∀ unit entry, MentionedType unit type → Import.ofReference naming type = some entry →
        entry ∈ (Dependencies.collect naming unit).forward ∨
          ∃ included ∈ (Dependencies.collect naming unit).superTypes,
            included.typeName = entry.typeName := by
  have foreign_iff : type.isForeign = true ↔ type.isArray = true ∨
      type.sort?.isSome = true ∧ Foundation.isMapped type.qualifiedName = false := by
    rw [TypeRef.isForeign, Bool.or_eq_true_iff, Bool.and_eq_true_iff, Bool.not_eq_true']
  rw [← foreign_iff, Bool.not_eq_true]
  refine ⟨exists_ofReference_of_foreign naming, fun not_foreign => ?_, fun name adopted => ?_,
    fun name pointed => ?_, fun unit entry mentioned needed => ?_⟩
  · exact ⟨ofReference_of_not_foreign naming not_foreign,
      writtenAlone_of_not_foreign naming not_foreign⟩
  · cases foreign : type.isForeign with
    | true =>
        obtain ⟨entry, needed, written⟩ := exists_ofReference_of_foreign naming foreign
        exact Or.inr ⟨entry, needed, forwardDeclaration_of_adopter (written.symm.trans adopted)⟩
    | false =>
        exact Or.inl ((writtenAlone_of_not_foreign naming foreign).targetName?_eq (Or.inl adopted))
  · cases foreign : type.isForeign with
    | true =>
        obtain ⟨entry, needed, written⟩ := exists_ofReference_of_foreign naming foreign
        exact Or.inr ⟨entry, needed, forwardDeclaration_of_pointer (written.symm.trans pointed)⟩
    | false =>
        exact Or.inl ((writtenAlone_of_not_foreign naming foreign).targetName?_eq (Or.inr pointed))
  · exact Dependencies.mem_forward_or_included
      (.reference mentioned ((ofReference_eq_some_iff naming type entry).mp needed))

/-- A class with a method that takes an array of arrays, marks and something to copy. -/
def ledgerUnit : SourceUnit :=
  let row := TypeRef.arrayOf (.ofPrimitive .long)
  { package := "org.bank"
    sourceFile := "org/bank/Ledger.java"
    declarations :=
      [.ofType
        { type := .declared "org.bank" "Ledger" .classType
          methods :=
            [{ signature :=
                { name := "book"
                  parameters :=
                    [⟨"rows", .arrayOf row⟩,
                     ⟨"mark", .declared "org.bank" "Ledger.Mark" .annotationType⟩,
                     ⟨"source", .declared "java.lang" "Cloneable" .classType⟩]
                  returnType := row } }] }] }

/-- The array of arrays and the mark are declared as they are written, and the protocol of what can be
copied is the target's own. -/
theorem ofReference_agrees_of_ledger :
    let naming : Naming := { prefixes := [⟨"org.bank", "OB"⟩] }
    let table := TypeRef.arrayOf (.arrayOf (.ofPrimitive .long))
    let mark := TypeRef.declared "org.bank" "Ledger.Mark" .annotationType
    let source := TypeRef.declared "java.lang" "Cloneable" .classType
    (∃ entry, Import.ofReference naming table = some entry ∧
        naming.variableType table =
          if entry.isProtocol then "id<" ++ entry.typeName ++ ">" else entry.typeName ++ " *") ∧
      naming.variableType table = "IOSObjectArray *" ∧
      (Import.ofReference naming source = none ∧
        WrittenAlone source (naming.variableType source)) ∧
      naming.variableType source = "id<" ++ "NSCopying" ++ ">" ∧
      ∃ entry, Import.ofReference naming mark = some entry ∧
        entry.forwardDeclaration = "@protocol OBLedger_Mark;" ∧
        (entry ∈ (Dependencies.collect naming ledgerUnit).forward ∨
          ∃ included ∈ (Dependencies.collect naming ledgerUnit).superTypes,
            included.typeName = entry.typeName) := by
  intro naming table mark source
  refine ⟨(ofReference_agrees naming table).1 (Or.inl rfl), by decide,
    (ofReference_agrees naming source).2.1 (by decide), by decide, ?_⟩
  obtain ⟨-, -, declared_as, -, collected⟩ := ofReference_agrees naming mark
  have unmapped : Foundation.targetName? mark.qualifiedName ≠ some "OBLedger_Mark" := by decide
  obtain ⟨entry, needed, declaration_eq⟩ :=
    (declared_as "OBLedger_Mark" (by decide)).resolve_left unmapped
  have mentioned : MentionedType ledgerUnit mark :=
    (mem_mentionedTypes_iff ledgerUnit mark).mp ⟨_, List.mem_cons_self, by decide⟩
  exact ⟨entry, needed, declaration_eq, collected ledgerUnit entry mentioned needed⟩

end HeaderForge
