import HeaderForge.Proofs.Manifest.Records

/-!
# Rewriting inside manifests

A rule rewrites single records. Inside a manifest it may be applied wherever a reader comes upon a
record: to the value of a member or of an item, to what a variant carries, or to the content of a
declaration. If records are read alike after each use of the rule, so is the whole manifest.

A declaration is read ahead, so a rewritten record must also stay sound.
-/

namespace HeaderForge.Manifest

/-- A tag is put anywhere among the members of an object, or before the items of an array. -/
inductive WithTag (tag : Json) : Json → Json → Prop
  | object (before after : List (Option String × Json))
      (untagged : some tagName ∉ (before ++ after).map Prod.fst) :
      WithTag tag (.object (before ++ after)) (.object (before ++ (some tagName, tag) :: after))
  | array (items : List Json) : WithTag tag (.array items) (.array (tag :: items))

/-- A rule for records. -/
structure RecordRule where
  /-- How a value that is read as a record of the given fields may be rewritten, if so many levels are
  left inside. -/
  Applies {σ : Type} {types : List Type} (fields : RecordFields σ types) (levels : Nat) :
    Json → Json → Prop

/-- A value that is read by the reader, with so many levels left, is rewritten by applying the rule to
some of the records in it, any number of times. -/
inductive Somewhere (rule : RecordRule) : {α : Type} → Reader α → Nat → Json → Json → Prop
  | refl {α : Type} {reader : Reader α} {levels : Nat} (json : Json) :
      Somewhere rule reader levels json json
  | trans {α : Type} {reader : Reader α} {levels : Nat} {json between other : Json}
      (first : Somewhere rule reader levels json between)
      (later : Somewhere rule reader levels between other) : Somewhere rule reader levels json other
  | record {σ : Type} {types : List Type} {name : String} {fields : RecordFields σ types}
      {make : Values types → σ} {levels : Nat} {json other : Json}
      (applied : rule.Applies fields levels json other) :
      Somewhere rule (readRecord name fields make) (levels + 1) json other
  | member {σ α : Type} {types : List Type} {name : String} {fields : RecordFields σ types}
      {make : Values types → σ} {levels : Nat} {field : RecordField σ α}
      (before after : List (Option String × Json)) {json other : Json} (finds : fields.Finds field)
      (inside : Somewhere rule field.codec.read levels json other) :
      Somewhere rule (readRecord name fields make) (levels + 1)
        (.object (before ++ (some field.name, json) :: after))
        (.object (before ++ (some field.name, other) :: after))
  | element {σ α : Type} {types : List Type} {name : String} {fields : RecordFields σ types}
      {make : Values types → σ} {levels : Nat} {field : RecordField σ α}
      (before after : List Json) {json other : Json} (has : fields.HasAt before.length field)
      (inside : Somewhere rule field.codec.read levels json other) :
      Somewhere rule (readRecord name fields make) (levels + 1)
        (.array (before ++ json :: after)) (.array (before ++ other :: after))
  | item {α : Type} {codec : Codec α} {levels : Nat} (before after : List Json) {json other : Json}
      (inside : Somewhere rule codec.read levels json other) :
      Somewhere rule (list codec).read (levels + 1)
        (.array (before ++ json :: after)) (.array (before ++ other :: after))
  | given {α : Type} {codec : Codec α} {levels : Nat} {json other : Json}
      (is_given : json ≠ .null) (stays_given : other ≠ .null)
      (inside : Somewhere rule codec.read levels json other) :
      Somewhere rule (nullable codec).read levels json other
  | carried {α β : Type} {variants : List (String × Variant β)} {name : String} {reader : Reader α}
      {wrap : α → β} {levels : Nat} {json other : Json}
      (found : variants.lookup name =
        some (.carrying fun site json => (reader site json).map wrap))
      (inside : Somewhere rule reader levels json other) :
      Somewhere rule (readChoice variants) (levels + 1) (tagged name json) (tagged name other)
  | reference {levels : Nat} {json other : Json}
      (inside : Somewhere rule (readTypeRef (levels + 1)) levels json other) :
      Somewhere rule typeRef.read levels json other
  | content {α : Type} {form : DeclarationForm} {reader : Reader α} {wrap : α → Declaration}
      {tag content other whole other_whole : Json} {levels : Nat} (tag_read : readTag tag = .ok form)
      (content_eq : ∀ site json, readContent form site json = (reader site json).map wrap)
      (has_tag : WithTag tag content whole) (other_has_tag : WithTag tag other other_whole)
      (inside : Somewhere rule reader (levels + 1) content other) :
      Somewhere rule readDeclaration (levels + 1) whole other_whole

/-- What is read from a value is read from the other as well, which is sound if the first is. -/
def Rereads (reader : Reader α) (levels : Nat) (json other : Json) : Prop :=
  ∀ ahead value, reader ⟨ahead, levels⟩ json = .ok value →
    reader ⟨ahead, levels⟩ other = .ok value ∧
      (json.isSound levels = true → other.isSound levels = true)

/-- The rule changes no value that fields read from a record, and keeps sound records sound. -/
def RecordRule.Faithful (rule : RecordRule) : Prop :=
  ∀ {σ : Type} {types : List Type} {fields : RecordFields σ types} {ahead : Bool} {levels : Nat}
    {json other : Json} {values : Values types}, rule.Applies fields levels json other →
    fields.Reads ⟨ahead, levels⟩ values json →
    fields.Reads ⟨ahead, levels⟩ values other ∧
      (json.isSound (levels + 1) = true → other.isSound (levels + 1) = true)

/-! ## Soundness of parts -/

theorem haveSoundValues_iff (levels : Nat) (members : List (Option String × Json)) :
    Json.haveSoundValues levels members = true ↔ SoundBeside levels members := by
  induction members with
  | nil => simp [Json.haveSoundValues, SoundBeside]
  | cons member members ih =>
      rw [SoundBeside, List.forall_mem_cons, Json.haveSoundValues, Bool.and_eq_true,
        Bool.and_eq_true, ih, SoundBeside]

theorem isSound_object_iff (levels : Nat) (members : List (Option String × Json)) :
    (Json.object members).isSound (levels + 1) = true ↔ SoundBeside levels members := by
  rw [Json.isSound, haveSoundValues_iff]

theorem isSound_array_iff (levels : Nat) (items : List Json) :
    (Json.array items).isSound (levels + 1) = true ↔ ∀ item ∈ items, item.isSound levels = true := by
  rw [Json.isSound, Json.areSound_iff]

/-- What holds of all values of a list still does when one of them is replaced. -/
theorem forall_mem_of_focus {property : α → Prop} {before after : List α} {first second : α}
    (all : ∀ value ∈ before ++ first :: after, property value)
    (keeps : property first → property second) :
    ∀ value ∈ before ++ second :: after, property value := by
  rw [List.forall_mem_append, List.forall_mem_cons] at *
  obtain ⟨before_all, first_holds, after_all⟩ := all
  exact ⟨before_all, keeps first_holds, after_all⟩

theorem isSound_object_of_focus {levels : Nat} (before after : List (Option String × Json))
    {key : Option String} {json other : Json}
    (sound : json.isSound levels = true → other.isSound levels = true)
    (object_sound : (Json.object (before ++ (key, json) :: after)).isSound (levels + 1) = true) :
    (Json.object (before ++ (key, other) :: after)).isSound (levels + 1) = true := by
  rw [isSound_object_iff] at *
  exact forall_mem_of_focus object_sound (And.imp_right sound)

theorem isSound_array_of_focus {levels : Nat} (before after : List Json) {json other : Json}
    (sound : json.isSound levels = true → other.isSound levels = true)
    (array_sound : (Json.array (before ++ json :: after)).isSound (levels + 1) = true) :
    (Json.array (before ++ other :: after)).isSound (levels + 1) = true := by
  rw [isSound_array_iff] at *
  exact forall_mem_of_focus array_sound sound

/-! ## One part read alike -/

namespace Rereads

theorem refl {reader : Reader α} {levels : Nat} (json : Json) : Rereads reader levels json json :=
  fun _ _ read => ⟨read, id⟩

theorem trans {reader : Reader α} {levels : Nat} {json between other : Json}
    (first : Rereads reader levels json between) (later : Rereads reader levels between other) :
    Rereads reader levels json other := by
  intro ahead value read
  obtain ⟨between_read, between_sound⟩ := first ahead value read
  obtain ⟨other_read, other_sound⟩ := later ahead value between_read
  exact ⟨other_read, fun sound => other_sound (between_sound sound)⟩

theorem record {rule : RecordRule} (faithful : rule.Faithful) {name : String}
    {fields : RecordFields σ types} {make : Values types → σ} {levels : Nat} {json other : Json}
    (applied : rule.Applies fields levels json other) :
    Rereads (readRecord name fields make) (levels + 1) json other := by
  intro ahead whole read
  obtain ⟨values, reads, made⟩ := readRecord_eq_ok_iff.mp read
  obtain ⟨other_reads, sound⟩ := faithful applied reads
  exact ⟨readRecord_eq_ok_iff.mpr ⟨values, other_reads, made⟩, sound⟩

theorem member {name : String} {fields : RecordFields σ types} {make : Values types → σ}
    {levels : Nat} {field : RecordField σ α} (before after : List (Option String × Json))
    {json other : Json} (finds : fields.Finds field)
    (inside : Rereads field.codec.read levels json other) :
    Rereads (readRecord name fields make) (levels + 1)
      (.object (before ++ (some field.name, json) :: after))
      (.object (before ++ (some field.name, other) :: after)) := by
  intro ahead whole read
  obtain ⟨values, ⟨reads⟩, made⟩ := readRecord_eq_ok_iff.mp read
  obtain ⟨value, json_read, reread⟩ := reads.focus finds
  obtain ⟨other_read, sound⟩ := inside ahead value json_read
  exact ⟨readRecord_eq_ok_iff.mpr ⟨values, .object (reread other other_read), made⟩,
    isSound_object_of_focus before after sound⟩

theorem element {name : String} {fields : RecordFields σ types} {make : Values types → σ}
    {levels : Nat} {field : RecordField σ α} (before after : List Json) {json other : Json}
    (has : fields.HasAt before.length field) (inside : Rereads field.codec.read levels json other) :
    Rereads (readRecord name fields make) (levels + 1)
      (.array (before ++ json :: after)) (.array (before ++ other :: after)) := by
  intro ahead whole read
  obtain ⟨values, _ | ⟨reads⟩, made⟩ := readRecord_eq_ok_iff.mp read
  obtain ⟨value, json_read, reread⟩ := reads.focus has rfl
  obtain ⟨other_read, sound⟩ := inside ahead value json_read
  exact ⟨readRecord_eq_ok_iff.mpr ⟨values, .array (reread other other_read), made⟩,
    isSound_array_of_focus before after sound⟩

end Rereads

/-- An item that a list reads may be replaced by any that is read alike. -/
theorem mapM_focus (read : Json → Except Fault α) {before after : List Json} {json : Json}
    {values : List α} (run : (before ++ json :: after).mapM read = .ok values) :
    ∃ value, read json = .ok value ∧
      ∀ other, read other = .ok value → (before ++ other :: after).mapM read = .ok values := by
  induction before generalizing values with
  | nil =>
      rw [List.nil_append, List.mapM_cons] at run
      obtain ⟨value, json_read, later_run⟩ := ok_of_bind_eq_ok run
      refine ⟨value, json_read, fun other other_read => ?_⟩
      rw [List.nil_append, List.mapM_cons, other_read]
      exact later_run
  | cons first before ih =>
      rw [List.cons_append, List.mapM_cons] at run
      obtain ⟨first_value, first_read, later_run⟩ := ok_of_bind_eq_ok run
      obtain ⟨later_values, later_read, made⟩ := ok_of_bind_eq_ok later_run
      obtain ⟨value, json_read, reread⟩ := ih later_read
      refine ⟨value, json_read, fun other other_read => ?_⟩
      rw [List.cons_append, List.mapM_cons, first_read]
      change ((before ++ other :: after).mapM read >>= _) = _
      rw [reread other other_read]
      exact made

/-- A variant that carries a value is read as what it carries. -/
theorem readChoice_tagged {variants : List (String × Variant α)} {name : String} {reader : Reader α}
    (found : variants.lookup name = some (.carrying reader)) (ahead : Bool) (levels : Nat)
    (json : Json) :
    readChoice variants ⟨ahead, levels + 1⟩ (tagged name json) = reader ⟨ahead, levels⟩ json := by
  simp only [readChoice, tagged, Json.ofMembers, List.map_cons, List.map_nil, findVariant, found,
    Site.inside]
  cases ahead with
  | true => rfl
  | false =>
      change (reader ⟨false, levels⟩ json >>= fun value => pure value) = _
      rw [bind_pure]

theorem findsTag_singleton_iff {tag : Json} {form : DeclarationForm} :
    FindsTag none [tag] (some form) ↔ readTag tag = .ok form :=
  ⟨fun | .given read => read, .given⟩

/-- A declaration is read as the content that its tag stands beside. -/
theorem readDeclaration_withTag_iff {tag content whole : Json} (has_tag : WithTag tag content whole)
    {ahead : Bool} {levels : Nat} {declared : Declaration} :
    readDeclaration ⟨ahead, levels + 1⟩ whole = .ok declared ↔
      ∃ form, readTag tag = .ok form ∧ content.isSound (levels + 1) = true ∧
        readContent form ⟨true, levels + 1⟩ content = .ok declared := by
  cases has_tag with
  | object before after untagged =>
      have entries_eq : entries tagName (before ++ (some tagName, tag) :: after) = [tag] := by
        have none_beside := (entries_eq_nil_iff tagName (before ++ after)).mpr untagged
        rw [entries_append, List.append_eq_nil_iff] at none_beside
        rw [entries_append, entries_cons_same, none_beside.1, none_beside.2, List.nil_append]
      have without_eq : without tagName (before ++ (some tagName, tag) :: after) =
          before ++ after := by
        rw [without_append, without_cons_same, ← without_append, without_eq_self untagged]
      rw [readDeclaration_object_iff, entries_eq, without_eq]
      simp only [findsTag_singleton_iff, isSound_object_iff]
  | array items =>
      rw [readDeclaration_array_iff]
      simp only [isSound_array_iff]

theorem WithTag.isSound_iff {tag content whole : Json} (has_tag : WithTag tag content whole)
    (levels : Nat) :
    whole.isSound (levels + 1) = true ↔
      tag.isSound levels = true ∧ content.isSound (levels + 1) = true := by
  cases has_tag with
  | object before after untagged =>
      simp only [isSound_object_iff, SoundBeside, List.forall_mem_append, List.forall_mem_cons,
        Option.isSome_some, true_and]
      exact and_left_comm
  | array items => simp only [isSound_array_iff, List.forall_mem_cons]

namespace Rereads

theorem item {codec : Codec α} {levels : Nat} (before after : List Json) {json other : Json}
    (inside : Rereads codec.read levels json other) :
    Rereads (list codec).read (levels + 1)
      (.array (before ++ json :: after)) (.array (before ++ other :: after)) := by
  intro ahead values read
  obtain ⟨value, json_read, reread⟩ := mapM_focus (codec.read ⟨ahead, levels⟩) read
  obtain ⟨other_read, sound⟩ := inside ahead value json_read
  exact ⟨reread other other_read, isSound_array_of_focus before after sound⟩

theorem given {codec : Codec α} {levels : Nat} {json other : Json} (is_given : json ≠ .null)
    (stays_given : other ≠ .null) (inside : Rereads codec.read levels json other) :
    Rereads (nullable codec).read levels json other := by
  intro ahead value read
  cases json_read : codec.read ⟨ahead, levels⟩ json with
  | error fault => simp [nullable, json_read, Except.map] at read
  | ok inner =>
      rw [nullable_read is_given json_read] at read
      obtain ⟨other_read, sound⟩ := inside ahead inner json_read
      exact ⟨(nullable_read stays_given other_read).trans read, sound⟩

theorem carried {variants : List (String × Variant β)} {name : String} {reader : Reader α}
    {wrap : α → β} {levels : Nat} {json other : Json}
    (found : variants.lookup name = some (.carrying fun site json => (reader site json).map wrap))
    (inside : Rereads reader levels json other) :
    Rereads (readChoice variants) (levels + 1) (tagged name json) (tagged name other) := by
  intro ahead value read
  rw [readChoice_tagged found] at read ⊢
  obtain ⟨inner, json_read, wrapped⟩ := map_eq_ok_iff.mp read
  obtain ⟨other_read, sound⟩ := inside ahead inner json_read
  exact ⟨map_eq_ok_iff.mpr ⟨inner, other_read, wrapped⟩, isSound_object_of_focus [] [] sound⟩

theorem content {form : DeclarationForm} {reader : Reader α} {wrap : α → Declaration}
    {tag content other whole other_whole : Json} {levels : Nat} (tag_read : readTag tag = .ok form)
    (content_eq : ∀ site json, readContent form site json = (reader site json).map wrap)
    (has_tag : WithTag tag content whole) (other_has_tag : WithTag tag other other_whole)
    (inside : Rereads reader (levels + 1) content other) :
    Rereads readDeclaration (levels + 1) whole other_whole := by
  intro ahead declared read
  obtain ⟨found, found_read, content_sound, content_read⟩ :=
    (readDeclaration_withTag_iff has_tag).mp read
  obtain rfl := Except.ok.inj (tag_read.symm.trans found_read)
  rw [content_eq] at content_read
  obtain ⟨inner, inner_read, wrapped⟩ := map_eq_ok_iff.mp content_read
  obtain ⟨other_read, sound⟩ := inside true inner inner_read
  constructor
  · refine (readDeclaration_withTag_iff other_has_tag).mpr
      ⟨form, tag_read, sound content_sound, ?_⟩
    rw [content_eq]
    exact map_eq_ok_iff.mpr ⟨inner, other_read, wrapped⟩
  · intro whole_sound
    obtain ⟨tag_sound, _⟩ := (has_tag.isSound_iff levels).mp whole_sound
    exact (other_has_tag.isSound_iff levels).mpr ⟨tag_sound, sound content_sound⟩

end Rereads

/-! ## Whole manifests -/

/-- A faithful rule may be applied anywhere. -/
theorem Somewhere.rereads {rule : RecordRule} (faithful : rule.Faithful) {reader : Reader α}
    {levels : Nat} {json other : Json} (rewritten : Somewhere rule reader levels json other) :
    Rereads reader levels json other := by
  induction rewritten with
  | refl json => exact .refl json
  | trans _ _ first later => exact first.trans later
  | record applied => exact .record faithful applied
  | member before after finds _ ih => exact .member before after finds ih
  | element before after has _ ih => exact .element before after has ih
  | item before after _ ih => exact .item before after ih
  | given is_given stays_given _ ih => exact .given is_given stays_given ih
  | carried found _ ih => exact .carried found ih
  | reference _ ih => exact ih
  | content tag_read content_eq has_tag other_has_tag _ ih =>
      exact .content tag_read content_eq has_tag other_has_tag ih

/-! ## Plain values -/

theorem isPlain_array_iff {items : List Json} :
    (Json.array items).IsPlain ↔ ∀ item ∈ items, item.IsPlain :=
  ⟨fun | .array items_plain => items_plain, .array⟩

theorem isPlain_object_iff {members : List (Option String × Json)} :
    (Json.object members).IsPlain ↔
      ∀ member ∈ members, member.1.isSome = true ∧ member.2.IsPlain := by
  constructor
  · intro plain
    cases plain with
    | ofMembers values_plain => exact List.forall_mem_map.mpr fun member member_mem =>
        ⟨rfl, values_plain member member_mem⟩
  · intro members_plain
    have keyed_eq : members = Json.keyed (members.map fun member => (member.1.getD "", member.2)) := by
      rw [Json.keyed, List.map_map]
      refine (List.map_id members).symm.trans (List.map_congr_left fun member member_mem => ?_)
      obtain ⟨key, json⟩ := member
      obtain ⟨name, rfl⟩ := Option.isSome_iff_exists.mp (members_plain _ member_mem).1
      rfl
    rw [keyed_eq]
    exact .ofMembers (List.forall_mem_map.mpr fun member member_mem =>
      (members_plain member member_mem).2)

/-- The rule keeps plain records plain. -/
def RecordRule.KeepsPlain (rule : RecordRule) : Prop :=
  ∀ {σ : Type} {types : List Type} {fields : RecordFields σ types} {levels : Nat}
    {json other : Json}, rule.Applies fields levels json other → json.IsPlain → other.IsPlain

theorem isPlain_object_of_focus (before after : List (Option String × Json)) {key : Option String}
    {json other : Json} (plain : json.IsPlain → other.IsPlain)
    (object_plain : (Json.object (before ++ (key, json) :: after)).IsPlain) :
    (Json.object (before ++ (key, other) :: after)).IsPlain := by
  rw [isPlain_object_iff] at *
  exact forall_mem_of_focus object_plain (And.imp_right plain)

theorem isPlain_array_of_focus (before after : List Json) {json other : Json}
    (plain : json.IsPlain → other.IsPlain)
    (array_plain : (Json.array (before ++ json :: after)).IsPlain) :
    (Json.array (before ++ other :: after)).IsPlain := by
  rw [isPlain_array_iff] at *
  exact forall_mem_of_focus array_plain plain

theorem WithTag.isPlain_iff {tag content whole : Json} (has_tag : WithTag tag content whole) :
    whole.IsPlain ↔ tag.IsPlain ∧ content.IsPlain := by
  cases has_tag with
  | object before after untagged =>
      simp only [isPlain_object_iff, List.forall_mem_append, List.forall_mem_cons,
        Option.isSome_some, true_and]
      exact and_left_comm
  | array items => simp only [isPlain_array_iff, List.forall_mem_cons]

/-- A rule that keeps plain records plain keeps all values plain. -/
theorem Somewhere.isPlain {rule : RecordRule} (keeps_plain : rule.KeepsPlain) {reader : Reader α}
    {levels : Nat} {json other : Json} (rewritten : Somewhere rule reader levels json other)
    (plain : json.IsPlain) : other.IsPlain := by
  induction rewritten with
  | refl json => exact plain
  | trans _ _ first later => exact later (first plain)
  | record applied => exact keeps_plain applied plain
  | member before after _ _ ih => exact isPlain_object_of_focus before after ih plain
  | element before after _ _ ih => exact isPlain_array_of_focus before after ih plain
  | item before after _ ih => exact isPlain_array_of_focus before after ih plain
  | given _ _ _ ih => exact ih plain
  | carried _ _ ih => exact isPlain_object_of_focus [] [] ih plain
  | reference _ ih => exact ih plain
  | content _ _ has_tag other_has_tag _ ih =>
      obtain ⟨tag_plain, content_plain⟩ := has_tag.isPlain_iff.mp plain
      exact other_has_tag.isPlain_iff.mpr ⟨tag_plain, ih content_plain⟩

end HeaderForge.Manifest
