import HeaderForge.Proofs.Declarations
import HeaderForge.Proofs.TypeUse.Types

/-!
# Types used by members

The parts of a header that declare fields, methods and static storage, with the types they use marked.
Each definition is the marked form of that of the same name in `Header`, and erasing its marks gives
back what that writes.
-/

namespace HeaderForge.Header.Marked

open MarkedStep (eraseAll namesOf unmarked line lines spacedLines indented)

/-! ## Variables of objects -/

def variablesLine (context : Context) (lead : Variable) (fragments : List Variable) :
    List Piece :=
  let mark := if needsAsterisk lead.type (context.naming.specificType lead.type) then "*" else ""
  .plain (if lead.isWeak then SupportLibrary.weakMark ++ " " else "")
    :: (context.naming.mention lead.type.resolved).base
    ++ [.plain (" " ++ ", ".intercalate (fragments.map fun var => mark ++ Naming.fieldName var)
          ++ ";")]

def instanceField (context : Context) (field : Field) : List MarkedStep :=
  match field.fragments with
  | [] => []
  | lead :: _ =>
    indented (unmarked (docLines field.doc) ++ line (variablesLine context lead field.fragments))

def instanceVariables (context : Context) (fields : List Field) : List MarkedStep :=
  match instanceFields fields with
  | [] => []
  | first :: rest =>
    unmarked (Page.line SupportLibrary.publicLine) ++ (first :: rest).flatMap (instanceField context)

@[simp] theorem textOf_variablesLine (context : Context) (lead : Variable)
    (fragments : List Variable) :
    Piece.textOf (variablesLine context lead fragments) =
      Header.variablesLine context lead fragments := by
  simp only [variablesLine, Header.variablesLine, List.cons_append, Piece.textOf_cons,
    Piece.text_plain, Piece.textOf_append, Piece.textOf_nil, String.append_empty, textOf_base,
    String.append_assoc]

theorem instanceField_steps (context : Context) (declaring : TypeRef) {field : Field} :
    (Header.instanceField context declaring field).steps =
      eraseAll (instanceField context field) := by
  unfold Header.instanceField instanceField
  cases field.fragments with
  | nil => rfl
  | cons lead rest => simp

/-- Fields that all declare variables are written in full. -/
theorem instanceVariables_steps (context : Context) (declaring : TypeRef) {fields : List Field}
    (filled : ∀ field ∈ fields, field.fragments ≠ []) :
    (Header.instanceVariables context declaring fields).steps =
      eraseAll (instanceVariables context fields) := by
  rw [instanceVariables_of_filled context declaring (filled_instanceFields filled), instanceVariables]
  cases instanceFields fields with
  | nil => rfl
  | cons first rest =>
      simp only [List.cons_ne_nil, if_false, instanceField_steps, MarkedStep.eraseAll_append,
        MarkedStep.eraseAll_unmarked, MarkedStep.eraseAll_flatMap]

theorem namesOf_instanceField (context : Context) {field : Field}
    (filled : field.fragments ≠ []) (shared : ∀ var ∈ field.fragments, var.type = field.type) :
    namesOf (instanceField context field) = (context.naming.mention field.type.resolved).names := by
  unfold instanceField
  cases fragments_eq : field.fragments with
  | nil => exact absurd fragments_eq filled
  | cons lead rest =>
      rw [fragments_eq] at shared
      simp [variablesLine, shared lead List.mem_cons_self]

/-- The variables of objects use the types of the fields, with type variables resolved. -/
theorem mem_namesOf_instanceVariables_iff (context : Context) {fields : List Field}
    (filled : ∀ field ∈ fields, field.fragments ≠ [])
    (shared : ∀ field ∈ fields, ∀ var ∈ field.fragments, var.type = field.type) (name : String) :
    name ∈ namesOf (instanceVariables context fields) ↔
      ∃ field ∈ instanceFields fields,
        name ∈ (context.naming.mention field.type.resolved).names := by
  have fields_names : ∀ field ∈ instanceFields fields,
      namesOf (instanceField context field) =
        (context.naming.mention field.type.resolved).names := by
    intro field field_mem
    have declared := (List.mem_filter.mp field_mem).1
    exact namesOf_instanceField context (filled field declared) (shared field declared)
  unfold instanceVariables
  cases instance_eq : instanceFields fields with
  | nil => simp
  | cons first rest =>
      rw [instance_eq] at fields_names
      rw [MarkedStep.namesOf_append, MarkedStep.namesOf_unmarked, List.nil_append,
        MarkedStep.namesOf_flatMap, List.mem_flatMap]
      exact exists_congr fun field => and_congr_right fun field_mem => by
        rw [fields_names field field_mem]

/-! ## Methods -/

def methodStart (naming : Naming) (signature : Signature) : List Piece :=
  .plain (Naming.methodSign signature ++ " (") :: (naming.mention signature.returnType).pieces
    ++ [.plain ")"]

def methodDeclaration (naming : Naming) (signature : Signature) : List Piece :=
  methodStart naming signature
    ++ .plain signature.name :: naming.slotPieces (naming.typedParameterSlots signature.parameters)

def constructorDeclaration (naming : Naming) (signature : Signature) : List Piece :=
  .plain Naming.constructorStart
    :: naming.slotPieces (naming.typedParameterSlots signature.parameters)

def mappedDeclaration (naming : Naming) (signature : Signature) (selector : String) :
    List Piece :=
  methodStart naming signature ++
    if signature.parameters.isEmpty then [.plain (Text.trimEnd ':' selector)]
    else naming.slotPieces (Naming.typedMappedSlots selector signature.parameters)

def methodLine? (context : Context) (method : Method) : Option (List Piece) :=
  if method.signature.isFunction then none
  else
    match method.signature.mappedSelector, method.signature.sort with
    | some selector, _ =>
      some (mappedDeclaration context.naming method.signature selector ++ [.plain ";"])
    | none, .constructor =>
      some (constructorDeclaration context.naming method.signature ++ [.plain ";"])
    | none, .staticInitializer => none
    | none, .ordinary =>
      if method.signature.isSynthetic || method.isExternalNative then none
      else
        some (methodDeclaration context.naming method.signature
          ++ [.plain (familyMark method.signature.name
                ++ deprecatedMark context (isDeprecated method.annotations) ++ ";")])

def methodSteps (context : Context) (method : Method) : List MarkedStep :=
  match methodLine? context method with
  | none => []
  | some pieces => unmarked (.newline :: docLines method.doc) ++ line pieces

def methodsSteps (context : Context) (methods : List Method) : List MarkedStep :=
  methods.flatMap (methodSteps context)

@[simp] theorem textOf_methodStart (naming : Naming) (signature : Signature) :
    Piece.textOf (methodStart naming signature) = naming.methodStart signature := by
  simp [methodStart, Naming.methodStart, String.append_assoc]

@[simp] theorem textOf_methodDeclaration (naming : Naming) (signature : Signature) :
    Piece.textOf (methodDeclaration naming signature) = naming.methodDeclaration signature := by
  simp [methodDeclaration, Naming.methodDeclaration, String.append_assoc]

@[simp] theorem textOf_constructorDeclaration (naming : Naming) (signature : Signature) :
    Piece.textOf (constructorDeclaration naming signature) =
      naming.constructorDeclaration signature := by
  simp [constructorDeclaration, Naming.constructorDeclaration]

@[simp] theorem textOf_mappedDeclaration (naming : Naming) (signature : Signature)
    (selector : String) :
    Piece.textOf (mappedDeclaration naming signature selector) =
      naming.mappedDeclaration signature selector := by
  unfold mappedDeclaration Naming.mappedDeclaration
  split <;> simp

theorem map_methodLine? (context : Context) (method : Method) :
    (methodLine? context method).map Piece.textOf = Header.methodLine? context method := by
  unfold methodLine? Header.methodLine?
  split
  · rfl
  · cases method.signature.mappedSelector with
    | some selector => simp
    | none =>
        cases method.signature.sort with
        | constructor => simp
        | staticInitializer => rfl
        | ordinary =>
            dsimp only
            split
            · rfl
            · simp [ordinaryLine, String.append_assoc]

@[simp] theorem eraseAll_methodSteps (context : Context) (method : Method) :
    eraseAll (methodSteps context method) = Header.methodSteps context method := by
  unfold methodSteps Header.methodSteps
  rw [← map_methodLine?]
  cases methodLine? context method with
  | none => rfl
  | some pieces => simp

@[simp] theorem eraseAll_methodsSteps (context : Context) (methods : List Method) :
    eraseAll (methodsSteps context methods) = Header.methodsSteps context methods := by
  simp [methodsSteps, Header.methodsSteps, MarkedStep.eraseAll_flatMap]

theorem mem_namesOf_methodStart {naming : Naming} {signature : Signature} {name : String}
    (name_mem : name ∈ Piece.namesOf (methodStart naming signature)) :
    ∃ type ∈ Declaration.signatureTypes signature, name ∈ (naming.mention type).names :=
  ⟨signature.returnType, List.mem_cons_self, by simpa [methodStart] using name_mem⟩

theorem mem_namesOf_slots {naming : Naming} {signature : Signature}
    {slots : List Naming.TypedSlot} {name : String}
    (parameter_types : ∀ slot ∈ slots, ∃ parameter ∈ signature.parameters,
      slot.type = parameter.type)
    (name_mem : name ∈ Piece.namesOf (naming.slotPieces slots)) :
    ∃ type ∈ Declaration.signatureTypes signature, name ∈ (naming.mention type).names := by
  rw [Naming.namesOf_slotPieces, List.mem_flatMap] at name_mem
  obtain ⟨slot, slot_mem, name_mem⟩ := name_mem
  obtain ⟨parameter, parameter_mem, type_eq⟩ := parameter_types slot slot_mem
  rw [type_eq] at name_mem
  exact ⟨parameter.type, List.mem_cons_of_mem _ (List.mem_map_of_mem parameter_mem), name_mem⟩

theorem mem_namesOf_methodDeclaration {naming : Naming} {signature : Signature} {name : String}
    (name_mem : name ∈ Piece.namesOf (methodDeclaration naming signature)) :
    ∃ type ∈ Declaration.signatureTypes signature, name ∈ (naming.mention type).names := by
  rw [methodDeclaration, Piece.namesOf_append, Piece.namesOf_plain_cons] at name_mem
  rcases List.mem_append.mp name_mem with name_mem | name_mem
  · exact mem_namesOf_methodStart name_mem
  · exact mem_namesOf_slots (fun _ => Naming.mem_typedParameterSlots_type) name_mem

/-- A method uses only types of its signature. -/
theorem mem_namesOf_methodLine? {context : Context} {method : Method} {pieces : List Piece}
    {name : String} (declared : methodLine? context method = some pieces)
    (name_mem : name ∈ Piece.namesOf pieces) :
    ∃ type ∈ Declaration.signatureTypes method.signature,
      name ∈ (context.naming.mention type).names := by
  unfold methodLine? at declared
  split at declared
  · cases declared
  · split at declared
    · cases declared
      rw [Piece.namesOf_append, mappedDeclaration, Piece.namesOf_append] at name_mem
      split at name_mem
      · exact mem_namesOf_methodStart (by simpa using name_mem)
      · simp only [Piece.namesOf_plain_cons, Piece.namesOf_nil, List.append_nil,
          List.mem_append] at name_mem
        rcases name_mem with name_mem | name_mem
        · exact mem_namesOf_methodStart name_mem
        · exact mem_namesOf_slots (fun _ => Naming.mem_typedMappedSlots_type) name_mem
    · cases declared
      have slot_names : name ∈ Piece.namesOf
          (context.naming.slotPieces
            (context.naming.typedParameterSlots method.signature.parameters)) := by
        simpa [constructorDeclaration] using name_mem
      exact mem_namesOf_slots (fun _ => Naming.mem_typedParameterSlots_type) slot_names
    · cases declared
    · split at declared
      · cases declared
      · cases declared
        exact mem_namesOf_methodDeclaration (by simpa using name_mem)

theorem mem_namesOf_methodsSteps {context : Context} {methods : List Method} {name : String}
    (name_mem : name ∈ namesOf (methodsSteps context methods)) :
    ∃ method ∈ methods, ∃ type ∈ Declaration.signatureTypes method.signature,
      name ∈ (context.naming.mention type).names := by
  rw [methodsSteps, MarkedStep.namesOf_flatMap, List.mem_flatMap] at name_mem
  obtain ⟨method, method_mem, name_mem⟩ := name_mem
  refine ⟨method, method_mem, ?_⟩
  unfold methodSteps at name_mem
  cases line_eq : methodLine? context method with
  | none => simp [line_eq] at name_mem
  | some pieces => exact mem_namesOf_methodLine? line_eq (by simpa [line_eq] using name_mem)

/-! ## Statics and setters -/

/-- A macro applied to the name of a class, the name of a variable and a type. -/
def macroCall (macroName owner variableName : String) (type : Mention) : List Piece :=
  .plain (macroName ++ "(" ++ owner ++ ", " ++ variableName ++ ", ") :: type.pieces ++ [.plain ")"]

def staticVariable (context : Context) (declaring : TypeRef) (var : Variable) :
    List MarkedStep :=
  let type := context.naming.mention var.type
  let owner := context.naming.fullName declaring
  let name := Naming.staticName var
  .plain .newline ::
    lines
      ([.plain (SupportLibrary.exportMark ++ " ") :: type.pieces
          ++ [.plain (nameSeparator (context.naming.variableType var.type) ++ owner ++ "_" ++ name
                ++ ";")],
        macroCall SupportLibrary.staticGetter owner name type]
        ++ ((staticMutator? var).map fun mutator => macroCall mutator owner name type).toList)

def staticVariables (context : Context) (declaring : TypeRef) (fields : List Field) :
    List MarkedStep :=
  (storedStatics fields).flatMap (staticVariable context declaring)

def setterLines (context : Context) (declaring : TypeRef) (field : Field) : List (List Piece) :=
  if field.modifiers.isStatic || field.type.isPrimitive then []
  else
    (field.fragments.filter fun var => !var.isWeak).map fun var =>
      macroCall SupportLibrary.fieldSetter (context.naming.fullName declaring)
        (Naming.fieldName var) (context.naming.mention field.type)

def fieldSetters (context : Context) (declaring : TypeRef) (fields : List Field) :
    List MarkedStep :=
  spacedLines (fields.flatMap (setterLines context declaring))

@[simp] theorem textOf_macroCall (macroName owner variableName : String) (type : Mention) :
    Piece.textOf (macroCall macroName owner variableName type) =
      Header.macroCall macroName [owner, variableName, Piece.textOf type.pieces] := by
  simp [macroCall, Header.macroCall, String.intercalate_cons_cons, String.append_assoc]

@[simp] theorem namesOf_macroCall (macroName owner variableName : String) (type : Mention) :
    Piece.namesOf (macroCall macroName owner variableName type) = type.names := by
  simp [macroCall]

@[simp] theorem eraseAll_staticVariable (context : Context) (declaring : TypeRef)
    (var : Variable) :
    eraseAll (staticVariable context declaring var) =
      Header.staticVariable context declaring var := by
  unfold staticVariable Header.staticVariable
  cases staticMutator? var <;> simp [String.append_assoc]

@[simp] theorem eraseAll_staticVariables (context : Context) (declaring : TypeRef)
    (fields : List Field) :
    eraseAll (staticVariables context declaring fields) =
      Header.staticVariables context declaring fields := by
  simp [staticVariables, Header.staticVariables, MarkedStep.eraseAll_flatMap]

theorem map_setterLines (context : Context) (declaring : TypeRef) (field : Field) :
    (setterLines context declaring field).map Piece.textOf =
      Header.setterLines context declaring field := by
  unfold setterLines Header.setterLines
  split
  · rfl
  · simp [Function.comp_def]

@[simp] theorem eraseAll_fieldSetters (context : Context) (declaring : TypeRef)
    (fields : List Field) :
    eraseAll (fieldSetters context declaring fields) =
      Header.fieldSetters context declaring fields := by
  have setters_eq : (fields.flatMap (setterLines context declaring)).map Piece.textOf =
      fields.flatMap (Header.setterLines context declaring) := by
    simp only [List.map_flatMap, map_setterLines]
  rw [fieldSetters, MarkedStep.eraseAll_spacedLines, setters_eq]
  rfl

/-- Static storage uses the types of static variables. -/
theorem mem_namesOf_staticVariables {context : Context} {declaring : TypeRef}
    {fields : List Field} {name : String}
    (name_mem : name ∈ namesOf (staticVariables context declaring fields)) :
    ∃ field ∈ fields, ∃ var ∈ field.fragments, name ∈ (context.naming.mention var.type).names := by
  rw [staticVariables, MarkedStep.namesOf_flatMap, List.mem_flatMap] at name_mem
  obtain ⟨var, stored, name_mem⟩ := name_mem
  obtain ⟨field, field_mem, var_mem⟩ := List.mem_flatMap.mp (List.mem_filter.mp stored).1
  refine ⟨field, (List.mem_filter.mp field_mem).1, var, var_mem, ?_⟩
  unfold staticVariable at name_mem
  cases mutator_eq : staticMutator? var <;> simpa [mutator_eq] using name_mem

/-- Setters use the types of fields. -/
theorem mem_namesOf_fieldSetters {context : Context} {declaring : TypeRef}
    {fields : List Field} {name : String}
    (name_mem : name ∈ namesOf (fieldSetters context declaring fields)) :
    ∃ field ∈ fields, name ∈ (context.naming.mention field.type).names := by
  rw [fieldSetters, MarkedStep.namesOf_spacedLines, List.mem_flatMap] at name_mem
  obtain ⟨pieces, pieces_mem, name_mem⟩ := name_mem
  obtain ⟨field, field_mem, pieces_mem⟩ := List.mem_flatMap.mp pieces_mem
  refine ⟨field, field_mem, ?_⟩
  unfold setterLines at pieces_mem
  split at pieces_mem
  · cases pieces_mem
  · obtain ⟨var, var_mem, rfl⟩ := List.mem_map.mp pieces_mem
    simpa using name_mem

end HeaderForge.Header.Marked
