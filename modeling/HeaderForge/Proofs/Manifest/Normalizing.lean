import HeaderForge.Proofs.Json.Shortest
import HeaderForge.Proofs.Manifest.Rewriting
import HeaderForge.Proofs.Manifest.Room

/-!
# Manifests written again

What is written for a unit that was read can be parsed, and is not too deep. So it is read as the unit
exactly if what is written for each of its floating-point constants is read as the constant: nothing
else that a unit holds is lost. But a constant can be lost, because a number that is too large for 32
bits is read as infinite, and an infinite value is written as null.
-/

namespace HeaderForge.Manifest

/-! ## What can be parsed -/

/-- Whatever is written can be parsed. -/
def Codec.IsLegible (codec : Codec α) : Prop := ∀ value, (codec.write value).IsLegible

/-- The codecs of all fields write what can be parsed. -/
inductive RecordFields.AreLegible : {types : List Type} → RecordFields σ types → Prop
  | nil : AreLegible .nil
  | cons {α : Type} {types : List Type} {field : RecordField σ α} {rest : RecordFields σ types}
      (field_legible : field.codec.IsLegible) (rest_legible : AreLegible rest) :
      AreLegible (.cons field rest)

theorem legible_of_keeps {codec : Codec α} (keeps : ∀ value, codec.Keeps value) : codec.IsLegible :=
  fun value => (keeps value).plain.isLegible

theorem legible_list {codec : Codec α} (legible : codec.IsLegible) : (list codec).IsLegible :=
  fun _ => .array (List.forall_mem_map.mpr fun value _ => legible value)

theorem RecordFields.AreLegible.members {fields : RecordFields σ types} (legible : fields.AreLegible)
    (whole : σ) : ∀ member ∈ fields.members whole, member.2.IsLegible := by
  induction legible with
  | nil => exact nofun
  | cons field_legible rest_legible ih =>
      exact List.forall_mem_cons.mpr ⟨field_legible _, ih⟩

theorem legible_record {name : String} {fields : RecordFields σ types} {make : Values types → σ}
    (legible : fields.AreLegible) : (record name fields make).IsLegible :=
  fun whole => .ofMembers (legible.members whole)

theorem legible_nullable {codec : Codec α} (legible : codec.IsLegible) :
    (nullable codec).IsLegible := by
  intro value
  cases value with
  | none => exact .null
  | some given => exact legible given

theorem legible_tagged {name : String} {json : Json} (legible : json.IsLegible) :
    (tagged name json).IsLegible :=
  .ofMembers (List.forall_mem_singleton.mpr legible)

theorem legible_numberOrNull {number? : Option Json.Number}
    (plain : ∀ number, number? = some number → number.IsPlain) :
    ((number?.map Json.number).getD .null).IsLegible := by
  cases number? with
  | none => exact .null
  | some number => exact .number (plain number rfl)

theorem legible_single : single.IsLegible :=
  fun _ => legible_numberOrNull fun _ written => Json.isPlain_ofDatum? written

theorem legible_double : double.IsLegible :=
  fun _ => legible_numberOrNull fun _ written => Json.isPlain_ofDatum? written

theorem legible_constant : constant.IsLegible := by
  intro value
  cases value with
  | boolean value => exact legible_tagged (legible_of_keeps keeps_flag value)
  | char value => exact legible_tagged (legible_of_keeps keeps_unsigned16 value)
  | byte value => exact legible_tagged (legible_of_keeps keeps_int8 value)
  | short value => exact legible_tagged (legible_of_keeps keeps_int16 value)
  | int value => exact legible_tagged (legible_of_keeps keeps_int32 value)
  | long value => exact legible_tagged (legible_of_keeps keeps_int64 value)
  | float value => exact legible_tagged (legible_single value)
  | double value => exact legible_tagged (legible_double value)
  | string value => exact legible_tagged (legible_of_keeps keeps_text value)

theorem legible_text : text.IsLegible := legible_of_keeps keeps_text

theorem legible_flag : flag.IsLegible := legible_of_keeps keeps_flag

theorem legible_typeRef : typeRef.IsLegible := legible_of_keeps keeps_typeRef

theorem legible_variable : variableCodec.IsLegible :=
  legible_record <| .cons legible_text <| .cons legible_typeRef <|
    .cons (legible_of_keeps keeps_modifiers) <| .cons (legible_nullable legible_constant) <|
    .cons legible_flag <| .cons legible_flag .nil

theorem legible_fields : (list field).IsLegible :=
  legible_list <| legible_record <| .cons legible_typeRef <|
    .cons (legible_of_keeps keeps_modifiers) <| .cons (legible_of_keeps keeps_nullableText) <|
    .cons (legible_list <| legible_record <| .cons legible_variable .nil) .nil

theorem legible_typeDeclaration : typeDeclaration.IsLegible :=
  legible_record <| .cons legible_typeRef <| .cons (legible_of_keeps keeps_nullableTypeRef) <|
    .cons (legible_of_keeps keeps_typeRefs) <| .cons (legible_of_keeps keeps_modifiers) <|
    .cons (legible_of_keeps keeps_annotations) <| .cons (legible_of_keeps keeps_nullableText) <|
    .cons legible_fields <| .cons (legible_of_keeps keeps_methods) <| .cons legible_flag .nil

theorem legible_enumDeclaration : enumDeclaration.IsLegible :=
  legible_record <| .cons legible_typeRef <| .cons (legible_of_keeps keeps_typeRefs) <|
    .cons (legible_of_keeps keeps_annotations) <| .cons (legible_of_keeps keeps_nullableText) <|
    .cons (legible_list <| legible_record <| .cons legible_text <| .cons legible_variable .nil) <|
    .cons legible_fields <| .cons (legible_of_keeps keeps_methods) <| .cons legible_flag .nil

theorem legible_annotationDeclaration : annotationDeclaration.IsLegible :=
  legible_record <| .cons legible_typeRef <| .cons (legible_of_keeps keeps_retention) <|
    .cons (legible_of_keeps keeps_annotations) <| .cons (legible_of_keeps keeps_nullableText) <|
    .cons (legible_list <| legible_of_keeps keeps_annotationMember) <|
    .cons legible_fields <| .cons (legible_of_keeps keeps_methods) <| .cons legible_flag .nil

theorem legible_declaration : declaration.IsLegible := by
  have with_tag {name : String} {members : List (String × Json)}
      (legible : (Json.ofMembers members).IsLegible) :
      (Json.ofMembers ((tagName, .text name) :: members)).IsLegible :=
    .ofMembers (List.forall_mem_cons.mpr ⟨.text name, Json.isLegible_values legible⟩)
  intro whole
  cases whole with
  | ofType content => exact with_tag (legible_typeDeclaration content)
  | ofEnum content => exact with_tag (legible_enumDeclaration content)
  | ofAnnotationType content => exact with_tag (legible_annotationDeclaration content)

theorem legible_sourceUnit : sourceUnit.IsLegible :=
  legible_record <| .cons legible_text <| .cons legible_text <|
    .cons (legible_list legible_declaration) .nil

/-! ## What is returned -/

/-- Somewhere the codec reads the value from what it writes for it. -/
def Codec.Returns (codec : Codec α) (value : α) : Prop :=
  ∃ site, codec.read site (codec.write value) = .ok value

/-- The codecs of all fields return the values that the fields have in a record. -/
inductive RecordFields.Return (whole : σ) : {types : List Type} → RecordFields σ types → Prop
  | nil : Return whole .nil
  | cons {α : Type} {types : List Type} {field : RecordField σ α} {rest : RecordFields σ types}
      (field_returns : field.codec.Returns (field.get whole)) (rest_return : Return whole rest) :
      Return whole (.cons field rest)

/-- Members that are read as the values they were written for are each read so. -/
theorem RecordFields.ReadsMembers.return {fields : RecordFields σ types} {site : Site} {whole : σ}
    (reads : fields.ReadsMembers site (Json.keyed (fields.members whole)) (fields.values whole)) :
    fields.Return whole := by
  induction fields with
  | nil => exact .nil
  | cons field rest ih =>
      obtain ⟨read, rest_reads⟩ := reads.uncons
      exact .cons ⟨site, read⟩ (ih rest_reads)

theorem returns_record {name : String} {fields : RecordFields σ types} {make : Values types → σ}
    (made : ∀ values, fields.values (make values) = values) {whole : σ}
    (returns : (record name fields make).Returns whole) : fields.Return whole := by
  obtain ⟨⟨ahead, outer⟩, read⟩ := returns
  change readRecord name fields make _ (.ofMembers (fields.members whole)) = _ at read
  obtain ⟨levels, ⟨⟩⟩ := readRecord_opens read
  obtain ⟨values, reads, make_eq⟩ := readRecord_object_iff.mp read
  have values_eq : values = fields.values whole := by rw [← make_eq, made]
  rw [values_eq] at reads
  exact reads.return

theorem returns_list {codec : Codec α} {values : List α} (returns : (list codec).Returns values) :
    ∀ value ∈ values, codec.Returns value := by
  obtain ⟨site, read⟩ := returns
  obtain ⟨inside, _, run⟩ := ok_of_bind_eq_ok read
  clear read
  induction values with
  | nil => exact nofun
  | cons value values ih =>
      rw [List.map_cons, List.mapM_cons] at run
      obtain ⟨first, first_read, later_run⟩ := ok_of_bind_eq_ok run
      obtain ⟨later, later_read, made⟩ := ok_of_bind_eq_ok later_run
      obtain ⟨rfl, rfl⟩ := List.cons.inj (Except.ok.inj made)
      exact List.forall_mem_cons.mpr ⟨⟨inside, first_read⟩, ih later_read⟩

theorem returns_nullable {codec : Codec α} {value : α}
    (returns : (nullable codec).Returns (some value)) : codec.Returns value := by
  obtain ⟨site, read⟩ := returns
  refine ⟨site, ?_⟩
  change (nullable codec).read site (codec.write value) = _ at read
  unfold nullable at read
  dsimp only at read
  split at read
  · cases read
  · obtain ⟨inner, inner_read, wrapped⟩ := map_eq_ok_iff.mp read
    rwa [Option.some.inj wrapped] at inner_read

theorem returns_carried {inner : Codec α} {wrap : α → β} {variants : List (String × Variant β)}
    {write : β → Json} {name : String} {value : α}
    (found : variants.lookup name = some (carried inner wrap)) (injective : Function.Injective wrap)
    (write_eq : write (wrap value) = tagged name (inner.write value))
    (returns : Codec.Returns ⟨readChoice variants, write⟩ (wrap value)) : inner.Returns value := by
  obtain ⟨⟨ahead, outer⟩, read⟩ := returns
  change readChoice variants _ (write (wrap value)) = _ at read
  rw [write_eq] at read
  cases outer with
  | zero => cases ahead <;> cases read
  | succ levels =>
      rw [readChoice_tagged found] at read
      obtain ⟨found_value, found_read, wrapped⟩ := map_eq_ok_iff.mp read
      obtain rfl := injective wrapped
      exact ⟨⟨ahead, levels⟩, found_read⟩

/-! ## Constants that are returned -/

theorem parse_print_of_returns {codec : Codec α} {value : α}
    (same_everywhere : ∀ site site' json, codec.read site json = codec.read site' json)
    (legible : codec.IsLegible) (returns : codec.Returns value) :
    codec.parse (codec.print value) = .ok value := by
  obtain ⟨site, read⟩ := returns
  rw [same_everywhere site ⟨false, maxLevels⟩] at read
  rw [Codec.parse, Codec.print, (legible value).readsBack.parse_print, Codec.readDocument, read]
  rfl

theorem readsBack_of_returns {value : Constant} (returns : constant.Returns value) :
    value.ReadsBack := by
  cases value with
  | float value =>
      have inner_returns : single.Returns value :=
        returns_carried rfl (fun _ _ => Constant.float.inj) rfl returns
      exact parse_print_of_returns (fun _ _ _ => rfl) legible_single inner_returns
  | double value =>
      have inner_returns : double.Returns value :=
        returns_carried rfl (fun _ _ => Constant.double.inj) rfl returns
      exact parse_print_of_returns (fun _ _ _ => rfl) legible_double inner_returns
  | boolean value => trivial
  | char value => trivial
  | byte value => trivial
  | short value => trivial
  | int value => trivial
  | long value => trivial
  | string value => trivial

theorem readsBack_of_variable {var : Variable} (returns : variableCodec.Returns var) :
    ∀ value ∈ var.constant, value.ReadsBack := by
  intro value value_mem
  obtain _ | ⟨_, _ | ⟨_, _ | ⟨_, _ | ⟨constant_returns, _⟩⟩⟩⟩ := returns_record (fun _ => rfl) returns
  change (nullable constant).Returns var.constant at constant_returns
  rw [Option.mem_def.mp value_mem] at constant_returns
  exact readsBack_of_returns (returns_nullable constant_returns)

theorem readsBack_of_fields {fields : List Field} (returns : (list field).Returns fields) :
    ∀ var ∈ fragmentsOf fields, ∀ value ∈ var.constant, value.ReadsBack := by
  intro var var_mem
  obtain ⟨whole, whole_mem, var_mem⟩ := List.mem_flatMap.mp var_mem
  obtain _ | ⟨_, _ | ⟨_, _ | ⟨_, _ | ⟨fragments_return, _⟩⟩⟩⟩ :=
    returns_record (fun _ => rfl) (returns_list returns whole whole_mem)
  obtain _ | ⟨var_returns, _⟩ :=
    returns_record (fun _ => rfl) (returns_list fragments_return var var_mem)
  exact readsBack_of_variable var_returns

theorem map_fst_keyed (members : List (String × Json)) :
    (Json.keyed members).map Prod.fst = (members.map Prod.fst).map some := by
  rw [Json.keyed, List.map_map, List.map_map]
  rfl

/-- What is returned for a declaration is returned for the content beside its tag. -/
theorem returns_tagged {name recordName : String} {form : DeclarationForm}
    {fields : RecordFields σ types} {make : Values types → σ} {wrap : σ → Declaration} {content : σ}
    (form_eq : declarationForms.lookup name = some form)
    (write_eq : writeDeclaration (wrap content) =
      .object ((some tagName, .text name) ::
        membersOf ((record recordName fields make).write content)))
    (read_eq : ∀ site json,
      readContent form site json = ((record recordName fields make).read site json).map wrap)
    (no_tag : tagName ∉ fields.names) (injective : Function.Injective wrap)
    (returns : declaration.Returns (wrap content)) :
    (record recordName fields make).Returns content := by
  obtain ⟨⟨ahead, outer⟩, read⟩ := returns
  change readDeclaration _ (writeDeclaration (wrap content)) = _ at read
  have untagged : some tagName ∉ (Json.keyed (fields.members content)).map Prod.fst := by
    rw [map_fst_keyed, RecordFields.members_names]
    exact fun tag_mem => no_tag ((List.mem_map_of_injective (Option.some_injective _)).mp tag_mem)
  have has_tag : WithTag (.text name) (.ofMembers (fields.members content))
      (writeDeclaration (wrap content)) := by
    rw [write_eq]
    exact .object [] _ untagged
  have tag_read : readTag (.text name) = .ok form := findVariant_eq_ok_iff.mpr form_eq
  cases outer with
  | zero =>
      rw [write_eq] at read
      cases read
  | succ levels =>
      obtain ⟨found, found_read, _, content_read⟩ := (readDeclaration_withTag_iff has_tag).mp read
      obtain rfl := Except.ok.inj (tag_read.symm.trans found_read)
      rw [read_eq] at content_read
      obtain ⟨inner, inner_read, wrapped⟩ := map_eq_ok_iff.mp content_read
      obtain rfl := injective wrapped
      exact ⟨⟨true, levels + 1⟩, inner_read⟩

theorem readsBack_of_declaration {whole : Declaration} (returns : declaration.Returns whole) :
    ∀ var ∈ whole.variablesOf, ∀ value ∈ var.constant, value.ReadsBack := by
  cases whole with
  | ofType content =>
      have content_returns : typeDeclaration.Returns content :=
        returns_tagged rfl rfl (fun _ _ => rfl) (by decide) (fun _ _ => Declaration.ofType.inj) returns
      obtain _ | ⟨_, _ | ⟨_, _ | ⟨_, _ | ⟨_, _ | ⟨_, _ | ⟨_, _ | ⟨fields_return, _⟩⟩⟩⟩⟩⟩⟩ :=
        returns_record (fun _ => rfl) content_returns
      exact readsBack_of_fields fields_return
  | ofEnum content =>
      have content_returns : enumDeclaration.Returns content :=
        returns_tagged rfl rfl (fun _ _ => rfl) (by decide) (fun _ _ => Declaration.ofEnum.inj) returns
      obtain _ | ⟨_, _ | ⟨_, _ | ⟨_, _ | ⟨_, _ | ⟨constants_return, _ | ⟨fields_return, _⟩⟩⟩⟩⟩⟩ :=
        returns_record (fun _ => rfl) content_returns
      refine List.forall_mem_append.mpr ⟨readsBack_of_fields fields_return, ?_⟩
      refine List.forall_mem_map.mpr fun constant constant_mem => ?_
      obtain _ | ⟨_, _ | ⟨storage_returns, _⟩⟩ :=
        returns_record (fun _ => rfl) (returns_list constants_return constant constant_mem)
      exact readsBack_of_variable storage_returns
  | ofAnnotationType content =>
      have content_returns : annotationDeclaration.Returns content :=
        returns_tagged rfl rfl (fun _ _ => rfl) (by decide)
          (fun _ _ => Declaration.ofAnnotationType.inj) returns
      obtain _ | ⟨_, _ | ⟨_, _ | ⟨_, _ | ⟨_, _ | ⟨_, _ | ⟨fields_return, _⟩⟩⟩⟩⟩⟩ :=
        returns_record (fun _ => rfl) content_returns
      exact readsBack_of_fields fields_return

theorem readsBack_of_sourceUnit {unit : SourceUnit} (returns : sourceUnit.Returns unit) :
    ∀ value ∈ unit.constantsOf, value.ReadsBack := by
  intro value value_mem
  obtain ⟨var, var_mem, value_eq⟩ := List.mem_filterMap.mp value_mem
  obtain ⟨whole, whole_mem, var_mem⟩ := List.mem_flatMap.mp var_mem
  obtain _ | ⟨_, _ | ⟨_, _ | ⟨declarations_return, _⟩⟩⟩ := returns_record (fun _ => rfl) returns
  exact readsBack_of_declaration (returns_list declarations_return whole whole_mem) var var_mem value
    value_eq

/-! ## Units -/

/-- A unit that was read from a text is read from what is written for it as well, exactly if the numbers
written for its floating-point constants read back. -/
theorem sourceUnit_parse_print_iff {text : String} {unit : SourceUnit}
    (read : sourceUnit.parse text = .ok unit) :
    sourceUnit.parse (sourceUnit.print unit) = .ok unit ↔
      ∀ value ∈ unit.constantsOf, value.ReadsBack := by
  constructor
  · intro again
    have value_read := read_of_readDocument again
    rw [Codec.print, (legible_sourceUnit unit).readsBack.parse_print] at value_read
    exact readsBack_of_sourceUnit ⟨_, value_read⟩
  · exact fun reads => (keeps_sourceUnit reads).parse_print (depth_write_of_parse read)

/-- A manifest of a class with a number of 32 bits as a constant. -/
def meterJson (number : Json.Number) : Json :=
  .ofMembers [("source_file", .text "Meter.java"), ("types", .array [.ofMembers
    [("declaration", .text "type"),
     ("binding", writeTypeRef (.declared "" "Meter" .classType)),
     ("fields", .array [.ofMembers
       [("type", writeTypeRef (.ofPrimitive .float)),
        ("fragments", .array [.ofMembers [("binding", .ofMembers
          [("name", .text "limit"), ("type", writeTypeRef (.ofPrimitive .float)),
           ("constant_value", tagged "float" (.number number))])]])]])]])]

/-- The unit of the class. -/
def meterUnit (limit : Binary.Single) : SourceUnit where
  package := ""
  sourceFile := "Meter.java"
  declarations := [.ofType
    { type := .declared "" "Meter" .classType
      fields :=
        [{ type := .ofPrimitive .float
           fragments :=
             [{ name := "limit", type := .ofPrimitive .float, constant := some (.float limit) }] }] }]

theorem meterJson_isLegible {number : Json.Number} (plain : number.IsPlain) :
    (meterJson number).IsLegible := by
  have type_legible := (isPlain_writeTypeRef (.ofPrimitive .float)).isLegible
  have constant_legible : (tagged "float" (.number number)).IsLegible :=
    legible_tagged (.number plain)
  have var_legible : (Json.ofMembers
      [("name", .text "limit"), ("type", writeTypeRef (.ofPrimitive .float)),
       ("constant_value", tagged "float" (.number number))]).IsLegible := by
    refine .ofMembers ?_
    simp only [List.forall_mem_cons]
    exact ⟨.text _, type_legible, constant_legible, nofun⟩
  have fragments_legible := Json.IsLegible.array (List.forall_mem_singleton.mpr
    (.ofMembers (List.forall_mem_singleton (a := ("binding", _)).mpr var_legible)))
  refine .ofMembers ?_
  simp only [List.forall_mem_cons]
  refine ⟨.text _, .array (List.forall_mem_singleton.mpr (.ofMembers ?_)), nofun⟩
  simp only [List.forall_mem_cons]
  refine ⟨.text _, (isPlain_writeTypeRef _).isLegible, .array (List.forall_mem_singleton.mpr ?_), nofun⟩
  refine .ofMembers ?_
  simp only [List.forall_mem_cons]
  exact ⟨type_legible, fragments_legible, nofun⟩

theorem parse_meterJson {number : Json.Number} {limit : Binary.Single} (plain : number.IsPlain)
    (read : sourceUnit.read ⟨false, maxLevels⟩ (meterJson number) = .ok (meterUnit limit)) :
    sourceUnit.parse (meterJson number).print = .ok (meterUnit limit) := by
  rw [Codec.parse, (meterJson_isLegible plain).readsBack.parse_print, Codec.readDocument, read]
  rfl

/-- An integer for a number of 32 bits is written with a point, and stays so. -/
theorem sourceUnit_parse_print_iff_meter :
    sourceUnit.parse (meterJson (.ofInt 3)).print = .ok (meterUnit ⟨0x40400000⟩) ∧
      sourceUnit.parse (sourceUnit.print (meterUnit ⟨0x40400000⟩)) =
        .ok (meterUnit ⟨0x40400000⟩) := by
  have read : sourceUnit.parse (meterJson (.ofInt 3)).print = .ok (meterUnit ⟨0x40400000⟩) :=
    parse_meterJson (Json.Number.isPlain_ofInt 3) (by decide +kernel)
  refine ⟨read, (sourceUnit_parse_print_iff read).mpr ?_⟩
  have limit_reads : (Constant.float ⟨0x40400000⟩).ReadsBack := by
    change single.parse (single.print ⟨0x40400000⟩) = .ok ⟨0x40400000⟩
    decide +kernel
  exact List.forall_mem_singleton.mpr limit_reads

/-- A number beyond those of 32 bits is read as infinite, which is written as null and not read again. -/
theorem infinite_meter_not_read :
    sourceUnit.parse (meterJson ⟨false, ⟨['1'], [], some 39⟩⟩).print =
        .ok (meterUnit ⟨0x7F800000⟩) ∧
      sourceUnit.parse (sourceUnit.print (meterUnit ⟨0x7F800000⟩)) =
        .error (.wrongType .null "f32") := by
  constructor
  · exact parse_meterJson ⟨Json.isWhole_toDigits 1, nofun⟩ (by decide +kernel)
  · have read : sourceUnit.read ⟨false, maxLevels⟩ (sourceUnit.write (meterUnit ⟨0x7F800000⟩)) =
        .error (.wrongType .null "f32") := by decide +kernel
    rw [Codec.parse, Codec.print, (legible_sourceUnit _).readsBack.parse_print, Codec.readDocument,
      read]
    rfl

end HeaderForge.Manifest
