import HeaderForge.Manifest.Codec

/-!
# Records

A record is written as an object with one member for each field. It may also be read from an array of
the field values in their order. Members may come in any order and unknown ones are passed over, but none
of a known name may come twice. A field may have a value of its own for when it is left out.
-/

namespace HeaderForge.Manifest

/-- A field of type `α` of a record of type `σ`. -/
structure RecordField (σ α : Type) where
  /-- The name of its member. -/
  name : String
  /-- The codec of its value. -/
  codec : Codec α
  /-- Its value when it is left out; without one it must be given. -/
  absent : Option α
  /-- Its value in a record. -/
  get : σ → α

/-- The fields of a record, with the list of their types. -/
inductive RecordFields (σ : Type) : List Type → Type 1 where
  /-- No fields. -/
  | nil : RecordFields σ []
  /-- A field before others. -/
  | cons {α : Type} {types : List Type} (field : RecordField σ α)
      (rest : RecordFields σ types) : RecordFields σ (α :: types)

/-- One value of each type. -/
def Values : List Type → Type
  | [] => Unit
  | type :: types => type × Values types

/-- At most one value of each type. -/
def Slots : List Type → Type
  | [] => Unit
  | type :: types => Option type × Slots types

/-- A field that must be given. -/
def required (name : String) (codec : Codec α) (get : σ → α) (rest : RecordFields σ types) :
    RecordFields σ (α :: types) :=
  .cons ⟨name, codec, none, get⟩ rest

/-- A field that may be left out. -/
def optional (name : String) (codec : Codec α) (absent : α) (get : σ → α)
    (rest : RecordFields σ types) : RecordFields σ (α :: types) :=
  .cons ⟨name, codec, some absent, get⟩ rest

namespace RecordFields

/-- No value for any field. -/
def emptySlots : RecordFields σ types → Slots types
  | nil => ()
  | cons _ rest => (none, rest.emptySlots)

/-- Reads the value of a member into the slot of its field; `none` if no field has its name. -/
def fill? : RecordFields σ types → Slots types → Site → String → Json →
    Option (Except Fault (Slots types))
  | nil, _, _, _, _ => none
  | cons field rest, (slot, slots), site, key, json =>
    if field.name = key then
      some <|
        if slot.isSome then .error (.duplicateField key)
        else (field.codec.read site json).map fun value => (some value, slots)
    else
      (rest.fill? slots site key json).map (Except.map fun slots => (slot, slots))

/-- Reads members into the slots of their fields. -/
def fillAll (fields : RecordFields σ types) (site : Site) :
    Slots types → List (Option String × Json) → Except Fault (Slots types)
  | slots, [] => .ok slots
  | _, (none, _) :: _ => .error .malformed
  | slots, (some key, json) :: rest =>
    match fields.fill? slots site key json with
    | some filled => do fields.fillAll site (← filled) rest
    | none => if json.isReadable then fields.fillAll site slots rest else .error .malformed

/-- The values in the slots, with those of the fields left out. -/
def close : RecordFields σ types → Slots types → Except Fault (Values types)
  | nil, _ => .ok ()
  | cons field rest, (slot, slots) => do
    let value ←
      match slot, field.absent with
      | some value, _ => .ok value
      | none, some value => .ok value
      | none, none => .error (.missingField field.name)
    let values ← rest.close slots
    pure (value, values)

/-- Reads an array of field values; gives also the items left over. The number is that of the items
read before, and the text says how long the array should be. -/
def readItems (site : Site) (expected : String) :
    RecordFields σ types → Nat → List Json → Except Fault (Values types × List Json)
  | nil, _, items => .ok ((), items)
  | cons field rest, count, item :: items => do
    let value ← field.codec.read site item
    let (values, left) ← rest.readItems site expected (count + 1) items
    pure ((value, values), left)
  | cons field rest, count, [] => do
    let value ←
      match field.absent with
      | some value => .ok value
      | none => .error (.wrongLength count expected)
    let (values, left) ← rest.readItems site expected (count + 1) []
    pure ((value, values), left)

/-- The members of a record. -/
def members (record : σ) : RecordFields σ types → List (String × Json)
  | nil => []
  | cons field rest => (field.name, field.codec.write (field.get record)) :: rest.members record

end RecordFields

/-- A number of elements in words. -/
def elementCount (count : Nat) : String :=
  toString count ++ (if count = 1 then " element" else " elements")

/-- The fault of an array with items left over. -/
def leftOver (site : Site) (fieldCount leftCount : Nat) : Fault :=
  if site.isReadAhead then
    .wrongLength (fieldCount + leftCount) (elementCount fieldCount ++ " in sequence")
  else
    .malformed

/-- Reads a record. -/
def readRecord (name : String) (fields : RecordFields σ types) (make : Values types → σ) :
    Reader σ := fun site json =>
  match json with
  | .object members => do
    let site ← site.inside
    let slots ← fields.fillAll site fields.emptySlots members
    let values ← fields.close slots
    pure (make values)
  | .array items => do
    let site ← site.inside
    let expected := "struct " ++ name ++ " with " ++ elementCount types.length
    let (values, left) ← fields.readItems site expected 0 items
    if left.isEmpty then pure (make values)
    else .error (leftOver site types.length left.length)
  | json => mismatch ("struct " ++ name) json

/-- The codec of a record, from its fields and what makes a record of their values. -/
def record (name : String) (fields : RecordFields σ types) (make : Values types → σ) : Codec σ where
  read := readRecord name fields make
  write value := .ofMembers (fields.members value)

end HeaderForge.Manifest
