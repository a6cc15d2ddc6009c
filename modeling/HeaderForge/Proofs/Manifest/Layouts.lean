import HeaderForge.Proofs.Manifest.Rewriting
import HeaderForge.Proofs.Manifest.Room

/-!
# Layouts of manifests

A manifest is read alike however its records are laid out: in whatever order their members stand, the
tag of a declaration among them, whatever else stands beside them, and whether fields that may be left
out are given the values that they have then.
-/

namespace HeaderForge.Manifest

/-! ## Sound values are readable -/

mutual

theorem isReadable_of_isSound : ∀ {levels : Nat} {json : Json}, json.isSound levels = true →
    json.isReadable = true
  | _, .null, _ => rfl
  | _, .bool _, _ => rfl
  | _, .number _, _ => rfl
  | _, .string _, _ => rfl
  | _ + 1, .array _, sound => areReadable_of_areSound sound
  | _ + 1, .object _, sound => haveReadableValues_of_haveSoundValues sound

theorem areReadable_of_areSound : ∀ {levels : Nat} {items : List Json},
    Json.areSound levels items = true → Json.areReadable items = true
  | _, [], _ => rfl
  | _, item :: items, sound => by
      rw [Json.areSound, Bool.and_eq_true] at sound
      rw [Json.areReadable, isReadable_of_isSound sound.1, areReadable_of_areSound sound.2]
      rfl

theorem haveReadableValues_of_haveSoundValues : ∀ {levels : Nat}
    {members : List (Option String × Json)}, Json.haveSoundValues levels members = true →
    Json.haveReadableValues members = true
  | _, [], _ => rfl
  | _, (key, json) :: members, sound => by
      rw [Json.haveSoundValues, Bool.and_eq_true, Bool.and_eq_true] at sound
      rw [Json.haveReadableValues, isReadable_of_isSound sound.1.2,
        haveReadableValues_of_haveSoundValues sound.2]
      rfl

end

/-! ## Records laid out otherwise -/

/-- Other layouts of a record. -/
inductive LaidOut (fields : RecordFields σ types) (levels : Nat) : Json → Json → Prop
  /-- The members of an object are put in another order. -/
  | permuted {members others : List (Option String × Json)} (perm : members.Perm others) :
      LaidOut fields levels (.object members) (.object others)
  /-- A member that no field is read from is added. -/
  | unknown {members : List (Option String × Json)} {key : String} {json : Json}
      (unknown : key ∉ fields.names) (sound : json.isSound levels = true) :
      LaidOut fields levels (.object members) (.object ((some key, json) :: members))
  /-- A field that was left out is given, with the value that it has when it is left out. -/
  | default {members : List (Option String × Json)} {α : Type} {field : RecordField σ α} {value : α}
      {json : Json} (finds : fields.Finds field) (absent : field.absent = some value)
      (left_out : some field.name ∉ members.map Prod.fst)
      (shows_default : ∀ ahead values, fields.Reads ⟨ahead, levels⟩ values (.object members) →
        json.isSound levels = true ∧ field.codec.read ⟨ahead, levels⟩ json = .ok value) :
      LaidOut fields levels (.object members) (.object ((some field.name, json) :: members))

theorem entries_perm {members others : List (Option String × Json)} (perm : members.Perm others)
    (name : String) : (entries name members).Perm (entries name others) :=
  (perm.filter _).map _

theorem without_perm {members others : List (Option String × Json)} (perm : members.Perm others)
    (name : String) : (without name members).Perm (without name others) :=
  perm.filter _

/-- A field is read from at most one value, whose order does not matter. -/
theorem RecordField.ReadsFrom.perm {field : RecordField σ α} {site : Site} {found others : List Json}
    {value : α} (reads : field.ReadsFrom site found value) (perm : found.Perm others) :
    field.ReadsFrom site others value := by
  cases reads with
  | given read =>
      obtain rfl := List.singleton_perm.mp perm
      exact .given read
  | leftOut absent =>
      obtain rfl := List.nil_perm.mp perm
      exact .leftOut absent

namespace RecordFields

theorem ReadsMembers.perm {fields : RecordFields σ types} {site : Site}
    {members others : List (Option String × Json)} {values : Values types}
    (reads : fields.ReadsMembers site members values) (perm : members.Perm others) :
    fields.ReadsMembers site others values := by
  induction fields generalizing members others with
  | nil => exact fun member member_mem => reads member (perm.mem_iff.mpr member_mem)
  | cons field rest ih =>
      obtain ⟨value, values⟩ := values
      exact ⟨reads.1.perm (entries_perm perm field.name), ih reads.2 (without_perm perm field.name)⟩

/-- Readable members of other names are passed over. -/
theorem ReadsMembers.unknown {fields : RecordFields σ types} {site : Site} {key : String}
    {json : Json} {members : List (Option String × Json)} {values : Values types}
    (reads : fields.ReadsMembers site members values) (unknown : key ∉ fields.names)
    (readable : json.isReadable = true) :
    fields.ReadsMembers site ((some key, json) :: members) values := by
  induction fields generalizing members with
  | nil => exact List.forall_mem_cons.mpr ⟨⟨rfl, readable⟩, reads⟩
  | cons field rest ih =>
      obtain ⟨value, values⟩ := values
      rw [names, List.mem_cons, not_or] at unknown
      have key_ne : some key ≠ some field.name := fun key_eq => unknown.1 (Option.some.inj key_eq)
      rw [ReadsMembers, entries_cons_other key_ne, without_cons_other key_ne]
      exact ⟨reads.1, ih reads.2 unknown.2⟩

/-- A field that is left out may be given the value that it has then. -/
theorem ReadsMembers.default {fields : RecordFields σ types} {field : RecordField σ α}
    (finds : fields.Finds field) {site : Site} {json : Json} {value : α}
    {members : List (Option String × Json)} {values : Values types}
    (reads : fields.ReadsMembers site members values) (absent : field.absent = some value)
    (left_out : some field.name ∉ members.map Prod.fst)
    (read : field.codec.read site json = .ok value) :
    fields.ReadsMembers site ((some field.name, json) :: members) values := by
  induction finds generalizing members with
  | @here types α field rest =>
      obtain ⟨found, values⟩ := values
      obtain ⟨field_reads, rest_reads⟩ := reads
      have none_found := (entries_eq_nil_iff field.name members).mpr left_out
      rw [none_found, RecordField.readsFrom_nil_iff, absent] at field_reads
      obtain rfl := Option.some.inj field_reads
      rw [ReadsMembers, entries_cons_same, none_found, without_cons_same]
      exact ⟨.given read, rest_reads⟩
  | @there types α β first rest field other finds ih =>
      obtain ⟨found, values⟩ := values
      obtain ⟨first_reads, rest_reads⟩ := reads
      have key_ne : some field.name ≠ some first.name := fun key_eq =>
        other (Option.some.inj key_eq)
      have left_out_beside : some field.name ∉ (without first.name members).map Prod.fst :=
        fun key_mem => left_out (List.map_subset _ List.filter_sublist.subset key_mem)
      rw [ReadsMembers, entries_cons_other key_ne, without_cons_other key_ne]
      exact ⟨first_reads, ih rest_reads absent left_out_beside read⟩

end RecordFields

theorem isSound_object_perm {members others : List (Option String × Json)}
    (perm : members.Perm others) {levels : Nat}
    (sound : (Json.object members).isSound (levels + 1) = true) :
    (Json.object others).isSound (levels + 1) = true := by
  rw [isSound_object_iff] at sound ⊢
  exact fun member member_mem => sound member (perm.mem_iff.mpr member_mem)

theorem isSound_object_cons {members : List (Option String × Json)} {key : String} {json : Json}
    {levels : Nat} (json_sound : json.isSound levels = true)
    (sound : (Json.object members).isSound (levels + 1) = true) :
    (Json.object ((some key, json) :: members)).isSound (levels + 1) = true := by
  rw [isSound_object_iff] at sound ⊢
  exact List.forall_mem_cons.mpr ⟨⟨rfl, json_sound⟩, sound⟩

/-- Records may be laid out otherwise. -/
def layout : RecordRule := ⟨LaidOut⟩

theorem layout_faithful : layout.Faithful := by
  intro σ types fields ahead levels json other values laid_out reads
  cases laid_out with
  | permuted perm =>
      obtain ⟨reads⟩ := reads
      exact ⟨.object (reads.perm perm), isSound_object_perm perm⟩
  | unknown unknown sound =>
      obtain ⟨reads⟩ := reads
      exact ⟨.object (reads.unknown unknown (isReadable_of_isSound sound)),
        isSound_object_cons sound⟩
  | default finds absent left_out shows_default =>
      obtain ⟨sound, read⟩ := shows_default ahead values reads
      obtain ⟨reads⟩ := reads
      exact ⟨.object (reads.default finds absent left_out read), isSound_object_cons sound⟩

theorem RecordFields.Finds.depth_absent {fields : RecordFields σ types} {field : RecordField σ α}
    (finds : fields.Finds field) {value : α} (absent : field.absent = some value) :
    (field.codec.write value).depth ≤ fields.absentDepth := by
  induction finds with
  | here =>
      rw [absentDepth, absent]
      exact le_max_left _ _
  | there _ _ ih => exact (ih absent).trans (le_max_right _ _)

/-- A field that was left out may be given with what its codec writes for its default. -/
theorem LaidOut.written {fields : RecordFields σ types} {levels : Nat}
    (room : ∀ ahead values, fields.ReadsEach ⟨ahead, levels⟩ values → fields.absentDepth ≤ levels)
    {field : RecordField σ α} (finds : fields.Finds field) {value : α}
    (absent : field.absent = some value) (keeps : field.codec.Keeps value)
    {members : List (Option String × Json)} (left_out : some field.name ∉ members.map Prod.fst) :
    LaidOut fields levels (.object members)
      (.object ((some field.name, field.codec.write value) :: members)) := by
  refine .default finds absent left_out fun ahead values reads => ?_
  have fits : (field.codec.write value).depth ≤ levels :=
    (finds.depth_absent absent).trans (room ahead values reads.each)
  exact ⟨keeps.plain.isSound fits, keeps.read ⟨ahead, levels⟩ fits⟩

/-! ## What fields have when they are left out -/

namespace RecordFields

/-- The members that show what the fields have when they are left out. -/
def defaults : RecordFields σ types → List (String × Json)
  | nil => []
  | cons field rest =>
    (field.absent.map fun value => (field.name, field.codec.write value)).toList ++ rest.defaults

/-- The codecs keep what the fields have when they are left out. -/
inductive KeepDefaults : {types : List Type} → RecordFields σ types → Prop
  | nil : KeepDefaults .nil
  | cons {α : Type} {types : List Type} {field : RecordField σ α} {rest : RecordFields σ types}
      (keeps : ∀ value, field.absent = some value → field.codec.Keeps value)
      (rest_keep : KeepDefaults rest) : KeepDefaults (.cons field rest)

theorem KeepDefaults.required {name : String} {codec : Codec α} {get : σ → α}
    {rest : RecordFields σ types} (rest_keep : rest.KeepDefaults) :
    (required name codec get rest).KeepDefaults :=
  .cons nofun rest_keep

theorem KeepDefaults.optional {name : String} {codec : Codec α} {absent : α} {get : σ → α}
    {rest : RecordFields σ types} (keeps : codec.Keeps absent) (rest_keep : rest.KeepDefaults) :
    (optional name codec absent get rest).KeepDefaults :=
  .cons (fun _ absent_eq => Option.some.inj absent_eq ▸ keeps) rest_keep

theorem name_mem_of_mem_defaults {fields : RecordFields σ types} {member : String × Json}
    (member_mem : member ∈ fields.defaults) : member.1 ∈ fields.names := by
  induction fields with
  | nil => exact absurd member_mem List.not_mem_nil
  | cons field rest ih =>
      rcases List.mem_append.mp member_mem with shown | later
      · obtain ⟨value, _, rfl⟩ := Option.map_eq_some_iff.mp (Option.mem_toList.mp shown)
        exact List.mem_cons_self
      · exact List.mem_cons_of_mem _ (ih later)

/-- Fields of different names are found by the members that show what they have when left out. -/
theorem KeepDefaults.finds {fields : RecordFields σ types} (keep : fields.KeepDefaults)
    (nodup : fields.names.Nodup) {member : String × Json} (member_mem : member ∈ fields.defaults) :
    ∃ (α : Type) (field : RecordField σ α) (value : α), fields.Finds field ∧
      field.absent = some value ∧ field.codec.Keeps value ∧
        member = (field.name, field.codec.write value) := by
  induction keep with
  | nil => exact absurd member_mem List.not_mem_nil
  | @cons β types first rest keeps rest_keep ih =>
      obtain ⟨name_not_mem, rest_nodup⟩ := List.nodup_cons.mp nodup
      rcases List.mem_append.mp member_mem with shown | later
      · obtain ⟨value, absent, rfl⟩ := Option.map_eq_some_iff.mp (Option.mem_toList.mp shown)
        exact ⟨β, first, value, .here, absent, keeps value absent, rfl⟩
      · obtain ⟨α, field, value, finds, absent, keeps, rfl⟩ := ih rest_nodup later
        have other := ne_of_mem_of_not_mem (name_mem_of_mem_defaults later) name_not_mem
        exact ⟨α, field, value, .there other finds, absent, keeps, rfl⟩

end RecordFields

theorem keeps_list_nil {codec : Codec α} : (list codec).Keeps [] :=
  keeps_list (List.forall_mem_nil _)

/-- Where a record is read that does not have one of the members, it may as well have it. -/
def MayShow (reader : Reader α) (levels : Nat) (shown : List (String × Json)) : Prop :=
  ∀ member ∈ shown, ∀ members : List (Option String × Json),
    some member.1 ∉ members.map Prod.fst →
      Somewhere layout reader levels (.object members) (.object ((some member.1, member.2) :: members))

theorem mayShow_defaults {name : String} {fields : RecordFields σ types} {make : Values types → σ}
    {levels : Nat} (nodup : fields.names.Nodup) (keep : fields.KeepDefaults)
    (room : ∀ ahead values, fields.ReadsEach ⟨ahead, levels⟩ values →
      fields.absentDepth ≤ levels) :
    MayShow (readRecord name fields make) (levels + 1) fields.defaults := by
  intro member member_mem members left_out
  obtain ⟨α, field, value, finds, absent, keeps, rfl⟩ := keep.finds nodup member_mem
  exact .record (.written room finds absent keeps left_out)

/-- Every field of a record that may be left out may be shown as well, with what it has then. -/
theorem mayShow_record {name : String} {fields : RecordFields σ types} {make : Values types → σ}
    {levels : Nat} (nodup : fields.names.Nodup) (keep : fields.KeepDefaults)
    (room : fields.LeaveRoom) :
    MayShow (record name fields make).read (levels + 1) fields.defaults :=
  mayShow_defaults nodup keep fun ahead => room ⟨ahead, levels⟩

theorem mayShow_typeRef (levels : Nat) :
    MayShow typeRef.read (levels + 1) [("package", .text "")] := by
  have defaults : MayShow (readTypeRef (levels + 2)) (levels + 1) [("package", .text "")] :=
    mayShow_record (names_typeRefFields _)
      (.optional (keeps_text "") <| .required <| .required .nil)
      (RecordFields.leaveRoom_of_flat rfl)
  exact fun member member_mem members left_out =>
    .reference (defaults member member_mem members left_out)

theorem mayShow_modifiers (levels : Nat) :
    MayShow modifiers.read (levels + 1)
      [("static", .bool false), ("final", .bool false), ("abstract", .bool false),
       ("native", .bool false)] :=
  mayShow_record (by decide)
    (.optional (keeps_flag false) <| .optional (keeps_flag false) <|
      .optional (keeps_flag false) <| .optional (keeps_flag false) .nil)
    (RecordFields.leaveRoom_of_flat rfl)

theorem mayShow_variable (levels : Nat) :
    MayShow variableCodec.read (levels + 1)
      [("modifiers", modifiers.write {}), ("constant_value", .null), ("weak", .bool false),
       ("enum_constant", .bool false)] :=
  mayShow_record (by decide)
    (.required <| .required <| .optional (keeps_modifiers {}) <|
      .optional (keeps_nullable nofun nofun) <| .optional (keeps_flag false) <|
      .optional (keeps_flag false) .nil)
    (RecordFields.leaveRoom_of_opens (.there (.here rfl opens_typeRef)) (by decide))

theorem mayShow_field (levels : Nat) :
    MayShow field.read (levels + 1) [("modifiers", modifiers.write {}), ("doc", .null)] :=
  mayShow_record (by decide)
    (.required <| .optional (keeps_modifiers {}) <| .optional (keeps_nullableText none) <|
      .required .nil)
    (RecordFields.leaveRoom_of_opens (.here rfl opens_typeRef) (by decide))

theorem mayShow_signature (levels : Nat) :
    MayShow signature.read (levels + 1)
      [("kind", .text "method"), ("modifiers", modifiers.write {}), ("parameters", .array []),
       ("synthetic", .bool false), ("function", .bool false), ("mapped_selector", .null)] :=
  mayShow_record (by decide)
    (.required <| .optional (keeps_methodSort .ordinary) <| .optional (keeps_modifiers {}) <|
      .optional keeps_list_nil <| .required <| .optional (keeps_flag false) <|
      .optional (keeps_flag false) <| .optional (keeps_nullableText none) .nil)
    (RecordFields.leaveRoom_of_opens
      (.there <| .there <| .there <| .there <| .here rfl opens_typeRef) (by decide))

theorem mayShow_method (levels : Nat) :
    MayShow method.read (levels + 1)
      [("doc", .null), ("annotations", .array []), ("has_native_code", .bool false)] :=
  mayShow_record (by decide)
    (.required <| .optional (keeps_nullableText none) <| .optional (keeps_annotations []) <|
      .optional (keeps_flag false) .nil)
    (RecordFields.leaveRoom_of_opens (.here rfl (opens_record _ _ _)) (by decide))

theorem mayShow_typeDeclaration (levels : Nat) :
    MayShow typeDeclaration.read (levels + 1)
      [("superclass", .null), ("superinterfaces", .array []), ("modifiers", modifiers.write {}),
       ("annotations", .array []), ("doc", .null), ("fields", .array []), ("methods", .array []),
       ("top_level", .bool true)] :=
  mayShow_record (by decide)
    (.required <| .optional (keeps_nullableTypeRef none) <| .optional (keeps_typeRefs []) <|
      .optional (keeps_modifiers {}) <| .optional (keeps_annotations []) <|
      .optional (keeps_nullableText none) <| .optional keeps_list_nil <|
      .optional (keeps_methods []) <| .optional (keeps_flag true) .nil)
    (RecordFields.leaveRoom_of_opens (.here rfl opens_typeRef) (by decide))

theorem mayShow_enumDeclaration (levels : Nat) :
    MayShow enumDeclaration.read (levels + 1)
      [("interfaces", .array []), ("annotations", .array []), ("doc", .null),
       ("constants", .array []), ("fields", .array []), ("methods", .array []),
       ("top_level", .bool true)] :=
  mayShow_record (by decide)
    (.required <| .optional (keeps_typeRefs []) <| .optional (keeps_annotations []) <|
      .optional (keeps_nullableText none) <| .optional keeps_list_nil <|
      .optional keeps_list_nil <| .optional (keeps_methods []) <|
      .optional (keeps_flag true) .nil)
    (RecordFields.leaveRoom_of_opens (.here rfl opens_typeRef) (by decide))

theorem mayShow_annotationMember (levels : Nat) :
    MayShow annotationMember.read (levels + 1) [("default_value", .null)] :=
  mayShow_record (by decide)
    (.required <| .required <| .optional (keeps_nullableText none) .nil)
    (RecordFields.leaveRoom_of_flat rfl)

theorem mayShow_annotationDeclaration (levels : Nat) :
    MayShow annotationDeclaration.read (levels + 1)
      [("retention", .text "class"), ("annotations", .array []), ("doc", .null),
       ("members", .array []), ("fields", .array []), ("methods", .array []),
       ("top_level", .bool true)] :=
  mayShow_record (by decide)
    (.required <| .optional (keeps_retention .classFile) <| .optional (keeps_annotations []) <|
      .optional (keeps_nullableText none) <| .optional keeps_list_nil <|
      .optional keeps_list_nil <| .optional (keeps_methods []) <|
      .optional (keeps_flag true) .nil)
    (RecordFields.leaveRoom_of_opens (.here rfl opens_typeRef) (by decide))

theorem mayShow_sourceUnit :
    MayShow sourceUnit.read maxLevels [("package", .text ""), ("types", .array [])] :=
  mayShow_defaults (by decide)
    (.optional (keeps_text "") <| .required <| .optional keeps_list_nil .nil)
    fun _ _ _ => by decide

/-! ## Manifests laid out otherwise -/

/-- A manifest that differs only in the layout of its records is read as the same unit. -/
theorem sourceUnit_parse_of_layout {text other : String} {unit : SourceUnit}
    (read : sourceUnit.parse text = .ok unit)
    (laid_out : Somewhere layout sourceUnit.read maxLevels (Json.parse text).value
      (Json.parse other).value)
    (complete : (Json.parse other).isComplete = true) : sourceUnit.parse other = .ok unit := by
  have value_read := read_of_readDocument read
  obtain ⟨other_read, _⟩ := laid_out.rereads layout_faithful false unit value_read
  rw [Codec.parse, Codec.readDocument, other_read, complete]
  rfl

/-- A class in a manifest, with nothing that may be left out. -/
def pebble : Json :=
  .ofMembers [("source_file", .text "Pebble.java"), ("types", .array [.ofMembers
    [("declaration", .text "type"),
     ("binding", .ofMembers [("name", .text "Pebble"), ("kind", .text "class")])]])]

/-- The unit of the class. -/
def pebbleUnit : SourceUnit where
  package := ""
  sourceFile := "Pebble.java"
  declarations := [.ofType
    { type := .declared "" "Pebble" .classType, superclass := none, interfaces := []
      modifiers := {}, annotations := [], doc := none, fields := [], methods := []
      isTopLevel := true }]

/-- The same class laid out otherwise, with its modifiers, a package and a remark. -/
def pebbleLaidOut : Json :=
  .ofMembers [("package", .text ""), ("types", .array [.ofMembers
    [("modifiers", modifiers.write {}), ("remark", .array [.null]),
     ("binding", .ofMembers [("kind", .text "class"), ("name", .text "Pebble")]),
     ("declaration", .text "type")]]), ("source_file", .text "Pebble.java")]

theorem pebble_isPlain : pebble.IsPlain := by
  refine .ofMembers (List.forall_mem_cons.mpr ⟨.text _, List.forall_mem_cons.mpr ⟨.array ?_, nofun⟩⟩)
  refine List.forall_mem_cons.mpr ⟨.ofMembers ?_, nofun⟩
  refine List.forall_mem_cons.mpr ⟨.text _, List.forall_mem_cons.mpr ⟨.ofMembers ?_, nofun⟩⟩
  exact List.forall_mem_cons.mpr ⟨.text _, List.forall_mem_cons.mpr ⟨.text _, nofun⟩⟩

theorem pebbleLaidOut_isPlain : pebbleLaidOut.IsPlain := by
  refine .ofMembers ?_
  simp only [List.forall_mem_cons]
  refine ⟨.text _, .array ?_, .text _, nofun⟩
  refine List.forall_mem_cons.mpr ⟨.ofMembers ?_, nofun⟩
  simp only [List.forall_mem_cons]
  refine ⟨(keeps_modifiers {}).plain, .array (List.forall_mem_cons.mpr ⟨.null, nofun⟩),
    .ofMembers ?_, .text _, nofun⟩
  exact List.forall_mem_cons.mpr ⟨.text _, List.forall_mem_cons.mpr ⟨.text _, nofun⟩⟩

theorem pebbleContent_laidOut : Somewhere layout typeDeclaration.read 125
    (.ofMembers [("binding", .ofMembers [("name", .text "Pebble"), ("kind", .text "class")])])
    (.ofMembers
      [("modifiers", modifiers.write {}), ("remark", .array [.null]),
       ("binding", .ofMembers [("kind", .text "class"), ("name", .text "Pebble")])]) := by
  have binding_laid_out : Somewhere layout typeRef.read 124
      (.ofMembers [("name", .text "Pebble"), ("kind", .text "class")])
      (.ofMembers [("kind", .text "class"), ("name", .text "Pebble")]) :=
    .reference (.record (.permuted (.swap _ _ [])))
  refine .trans (.member [] [] .here binding_laid_out) (.trans (.record (.unknown ?new ?sound))
    (mayShow_typeDeclaration 124 ("modifiers", modifiers.write {}) (by simp) _ (by decide)))
  case new => decide
  case sound => rfl

theorem pebble_laidOut : Somewhere layout sourceUnit.read maxLevels pebble pebbleLaidOut := by
  have declaration_laid_out : Somewhere layout declaration.read 125
      (.ofMembers
        [("declaration", .text "type"),
         ("binding", .ofMembers [("name", .text "Pebble"), ("kind", .text "class")])])
      (.ofMembers
        [("modifiers", modifiers.write {}), ("remark", .array [.null]),
         ("binding", .ofMembers [("kind", .text "class"), ("name", .text "Pebble")]),
         ("declaration", .text "type")]) := by
    exact .content rfl (fun _ _ => rfl) (.object [] _ (by decide)) (.object [_, _, _] [] (by decide))
      pebbleContent_laidOut
  have unit_laid_out : Somewhere layout sourceUnit.read maxLevels
      pebble (.object
        [(some "types", .array [.ofMembers
          [("modifiers", modifiers.write {}), ("remark", .array [.null]),
           ("binding", .ofMembers [("kind", .text "class"), ("name", .text "Pebble")]),
           ("declaration", .text "type")]]), (some "source_file", .text "Pebble.java")]) :=
    .trans (.member [(some "source_file", _)] []
      (.there (by decide) <| .there (by decide) .here) (.item [] [] declaration_laid_out))
      (.record (.permuted (.swap _ _ [])))
  exact unit_laid_out.trans (mayShow_sourceUnit ("package", .text "") (by simp) _ (by decide))

/-- Members moved, a tag moved, a member added, and fields given their defaults. -/
theorem sourceUnit_parse_of_layout_pebble :
    sourceUnit.parse pebble.print = .ok pebbleUnit ∧
      sourceUnit.parse pebbleLaidOut.print = .ok pebbleUnit := by
  have parse_eq : Json.parse pebble.print = ⟨pebble, true⟩ := pebble_isPlain.readsBack.parse_print
  have laid_out_parse_eq : Json.parse pebbleLaidOut.print = ⟨pebbleLaidOut, true⟩ :=
    pebbleLaidOut_isPlain.readsBack.parse_print
  have read : sourceUnit.parse pebble.print = .ok pebbleUnit := by
    rw [Codec.parse, parse_eq]
    rfl
  refine ⟨read, sourceUnit_parse_of_layout read ?_ ?_⟩
  · rw [parse_eq, laid_out_parse_eq]
    exact pebble_laidOut
  · rw [laid_out_parse_eq]

end HeaderForge.Manifest
