import HeaderForge.Proofs.Manifest.Layouts

/-!
# Manifests by position

Records may be written as arrays of their values in the order of the fields, and values at the end that
their fields have when they are left out may be dropped. What is written for a unit reads back as the
unit after any number of such changes, if it does before.
-/

namespace HeaderForge.Manifest

/-- A record by position. -/
inductive InPlaces (fields : RecordFields σ types) (levels : Nat) : Json → Json → Prop
  /-- Members that stand in the order of the fields are written as an array of their values. -/
  | array {members : List (String × Json)} (names_eq : members.map Prod.fst = fields.names) :
      InPlaces fields levels (.ofMembers members) (.array (members.map Prod.snd))
  /-- The last item is dropped, whose field has its value when it is left out. -/
  | dropped (items : List Json) (item : Json) {α : Type} {field : RecordField σ α} {value : α}
      (has : fields.HasAt items.length field) (absent : field.absent = some value)
      (shows_default : ∀ ahead values, fields.Reads ⟨ahead, levels⟩ values (.array (items ++ [item])) →
        field.codec.read ⟨ahead, levels⟩ item = .ok value) :
      InPlaces fields levels (.array (items ++ [item])) (.array items)

/-- Records may be written by position. -/
def positional : RecordRule := ⟨InPlaces⟩

namespace RecordFields

/-- What fields read from members that stand in their order, they read from the values. -/
theorem ReadsMembers.items {fields : RecordFields σ types} {site : Site}
    {members : List (String × Json)} {values : Values types}
    (names_eq : members.map Prod.fst = fields.names)
    (reads : fields.ReadsMembers site (Json.keyed members) values) :
    fields.ReadsItems site (members.map Prod.snd) values := by
  induction fields generalizing members with
  | nil => rw [List.map_eq_nil_iff.mp names_eq]; rfl
  | cons field rest ih =>
      obtain ⟨value, values⟩ := values
      obtain ⟨⟨name, json⟩, members, rfl, rfl, rest_names_eq⟩ := List.map_eq_cons_iff.mp names_eq
      obtain ⟨read, rest_reads⟩ := reads.uncons
      exact ⟨.given read, ih rest_names_eq rest_reads⟩

/-- A last item need not be given where its field reads its default from it. -/
theorem ReadsItems.dropLast {place : Nat} {fields : RecordFields σ types} {field : RecordField σ α}
    (has : fields.HasAt place field) {site : Site} {items : List Json} {item : Json} {value : α}
    {values : Values types} (place_eq : items.length = place) (absent : field.absent = some value)
    (read : field.codec.read site item = .ok value)
    (reads : fields.ReadsItems site (items ++ [item]) values) :
    fields.ReadsItems site items values := by
  induction has generalizing items with
  | here =>
      obtain ⟨found, values⟩ := values
      obtain rfl := List.length_eq_zero_iff.mp place_eq
      obtain ⟨field_reads, rest_reads⟩ := reads
      have found_read := RecordField.readsFrom_singleton_iff.mp field_reads
      obtain rfl := Except.ok.inj (read.symm.trans found_read)
      exact ⟨.leftOut absent, rest_reads⟩
  | there _ ih =>
      obtain ⟨first, values⟩ := values
      obtain ⟨head, items, rfl⟩ := List.exists_cons_of_length_eq_add_one place_eq
      exact ⟨reads.1, ih (Nat.succ.inj place_eq) absent read reads.2⟩

end RecordFields

theorem positional_faithful : positional.Faithful := by
  intro σ types fields ahead levels json other values applied reads
  cases applied with
  | array names_eq =>
      obtain ⟨reads⟩ := reads
      refine ⟨.array (reads.items names_eq), fun sound => ?_⟩
      rw [isSound_array_iff, List.forall_mem_map]
      exact (Json.haveSoundValues_keyed_iff levels _).mp sound
  | dropped items item has absent shows_default =>
      have read := shows_default ahead values reads
      obtain _ | ⟨reads⟩ := reads
      refine ⟨.array (reads.dropLast has rfl absent read), fun sound => ?_⟩
      rw [isSound_array_iff, List.forall_mem_append] at sound
      rw [isSound_array_iff]
      exact sound.1

theorem positional_keepsPlain : positional.KeepsPlain := by
  intro σ types fields levels json other applied plain
  cases applied with
  | array names_eq => exact .array (List.forall_mem_map.mpr (Json.isPlain_values plain))
  | dropped items item has absent shows_default =>
      rw [isPlain_array_iff, List.forall_mem_append] at plain
      exact .array plain.1

/-- What is written for a unit is read as the unit, whatever part of it is written by position. -/
theorem sourceUnit_parse_positional {unit : SourceUnit}
    (reads : ∀ value ∈ unit.constantsOf, value.ReadsBack)
    (fits : (sourceUnit.write unit).depth ≤ maxLevels) {json : Json}
    (in_places : Somewhere positional sourceUnit.read maxLevels (sourceUnit.write unit) json) :
    sourceUnit.parse json.print = .ok unit := by
  have keeps := keeps_sourceUnit reads
  have unit_read := keeps.read ⟨false, maxLevels⟩ fits
  obtain ⟨json_read, _⟩ := in_places.rereads positional_faithful false unit unit_read
  have plain := in_places.isPlain positional_keepsPlain keeps.plain
  rw [Codec.parse, plain.readsBack.parse_print, Codec.readDocument, json_read]
  rfl

/-- The record written for a value may be written by position. -/
theorem InPlaces.written (fields : RecordFields σ types) (levels : Nat) (whole : σ) :
    InPlaces fields levels (.ofMembers (fields.members whole))
      (.array ((fields.members whole).map Prod.snd)) :=
  .array (RecordFields.members_names whole fields)

/-- The class by position, without the values at its end that may be dropped. -/
def pebbleInPlaces : Json :=
  .array [.text "", .text "Pebble.java", .array [.array
    [.text "type", .array [.text "", .text "Pebble", .text "class"], .null, .array [],
     modifiers.write {}, .array [], .null, .array []]]]

theorem pebbleInPlaces_somewhere :
    Somewhere positional sourceUnit.read maxLevels (sourceUnit.write pebbleUnit) pebbleInPlaces := by
  have binding_in_places : Somewhere positional typeRef.read 124
      (writeTypeRef (.declared "" "Pebble" .classType))
      (.array [.text "", .text "Pebble", .text "class"]) :=
    .reference (.record (.written (typeRefFields (readTypeRef 124)) 123
      (.declared "" "Pebble" .classType)))
  have content_in_places : Somewhere positional typeDeclaration.read 125
      (typeDeclaration.write { type := .declared "" "Pebble" .classType })
      (.array [.array [.text "", .text "Pebble", .text "class"], .null, .array [],
        modifiers.write {}, .array [], .null, .array []]) := by
    refine .trans (.record (.written _ 124 _)) (.trans (.element [] _ .here binding_in_places) ?_)
    exact .trans
      (.record (.dropped [_, _, _, _, _, _, _, _] (.bool true)
        (.there <| .there <| .there <| .there <| .there <| .there <| .there <| .there .here) rfl
        fun _ _ _ => rfl))
      (.record (.dropped [_, _, _, _, _, _, _] (.array [])
        (.there <| .there <| .there <| .there <| .there <| .there <| .there .here) rfl
        fun _ _ _ => rfl))
  have declaration_in_places : Somewhere positional declaration.read 125
      (writeDeclaration (.ofType { type := .declared "" "Pebble" .classType }))
      (.array [.text "type", .array [.text "", .text "Pebble", .text "class"], .null, .array [],
        modifiers.write {}, .array [], .null, .array []]) :=
    .content rfl (fun _ _ => rfl) (.object [] _ (by decide)) (.array _) content_in_places
  exact .trans (.record (.written _ 126 _)) (.element [_, _] [] (.there <| .there .here)
    (.item [] [] declaration_in_places))

theorem sourceUnit_parse_positional_pebble :
    pebbleUnit.constantsOf = [] ∧ (sourceUnit.write pebbleUnit).depth = 4 ∧
      sourceUnit.parse pebbleInPlaces.print = .ok pebbleUnit := by
  have constants_eq : pebbleUnit.constantsOf = [] := rfl
  have depth_eq : (sourceUnit.write pebbleUnit).depth = 4 := by decide
  refine ⟨constants_eq, depth_eq,
    sourceUnit_parse_positional ?_ (by rw [depth_eq]; decide) pebbleInPlaces_somewhere⟩
  rw [constants_eq]
  exact nofun

/-! ## Units that nest too deeply -/

/-- A type of arrays inside one another. -/
def nestedArray : Nat → TypeRef
  | 0 => .declared "" "Stone" .classType
  | count + 1 => .array "" "Stone" (nestedArray count)

/-- A unit whose text has one level more than a text may have. -/
def quarryUnit : SourceUnit where
  package := ""
  sourceFile := "Quarry.java"
  declarations := [.ofType
    { type := .declared "" "Quarry" .classType, superclass := some (nestedArray 62) }]

/-- The unit by position. -/
def quarryInPlaces : Json :=
  .array [.text "", .text "Quarry.java", (list declaration).write quarryUnit.declarations]

/-- Without a bound on its levels a unit need not be read from its values by position, nor from any
other text. -/
theorem quarryInPlaces_not_read :
    quarryUnit.constantsOf = [] ∧
      Somewhere positional sourceUnit.read maxLevels (sourceUnit.write quarryUnit) quarryInPlaces ∧
      sourceUnit.parse quarryInPlaces.print ≠ .ok quarryUnit := by
  refine ⟨rfl, .record (.written _ 126 quarryUnit), fun read => ?_⟩
  have depth_eq : (sourceUnit.write quarryUnit).depth = 128 := by decide +kernel
  have fits := depth_write_of_parse read
  rw [depth_eq] at fits
  exact absurd fits (by decide)

end HeaderForge.Manifest
