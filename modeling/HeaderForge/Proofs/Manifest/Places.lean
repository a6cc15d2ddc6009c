import HeaderForge.Proofs.Manifest.Nesting
import HeaderForge.Proofs.Manifest.Rewriting

/-!
# Places in manifests

A place is where a reader comes to a part of a value and reads it with another reader. It may lie deep
inside, and in the content of a declaration. If the whole is read, so is the part; and if an object at
the place is then replaced by one with fewer members that is not read, its fault is the fault of the
whole: what comes before the place is read as before, and what is read ahead stays sound.
-/

namespace HeaderForge.Manifest

/-- The form of declaration has its content read by the reader. -/
def DeclarationForm.HasContent (form : DeclarationForm) (reader : Reader α) : Prop :=
  ∃ wrap : α → Declaration, ∀ site json, readContent form site json = (reader site json).map wrap

/-- A reader comes, in any value with the context, to what stands in the place that the context leaves
open, and reads it with the inner reader. -/
inductive ReadsAt {β : Type} (inner : Reader β) : {α : Type} → Reader α → (Json → Json) → Prop
  /-- The whole value. -/
  | here : ReadsAt inner inner fun json => json
  /-- The value of a member of a record. -/
  | member {σ α : Type} {types : List Type} {name : String} {fields : RecordFields σ types}
      {make : Values types → σ} {field : RecordField σ α} {context : Json → Json}
      (before after : List (Option String × Json)) (finds : fields.Finds field)
      (inside : ReadsAt inner field.codec.read context) :
      ReadsAt inner (readRecord name fields make) fun json =>
        .object (before ++ (some field.name, context json) :: after)
  /-- An item of a record by position. -/
  | element {σ α : Type} {types : List Type} {name : String} {fields : RecordFields σ types}
      {make : Values types → σ} {field : RecordField σ α} {context : Json → Json}
      (before after : List Json) (has : fields.HasAt before.length field)
      (inside : ReadsAt inner field.codec.read context) :
      ReadsAt inner (readRecord name fields make) fun json =>
        .array (before ++ context json :: after)
  /-- An item of a list. -/
  | item {α : Type} {codec : Codec α} {context : Json → Json} (before after : List Json)
      (inside : ReadsAt inner codec.read context) :
      ReadsAt inner (list codec).read fun json => .array (before ++ context json :: after)
  /-- A value that could be left open. -/
  | given {α : Type} {codec : Codec α} {context : Json → Json}
      (inside : ReadsAt inner codec.read context) : ReadsAt inner (nullable codec).read context
  /-- What a variant carries. -/
  | carried {α γ : Type} {variants : List (String × Variant γ)} {name : String} {reader : Reader α}
      {wrap : α → γ} {context : Json → Json} (before after : List (Option String × Json))
      (found : variants.lookup name = some (.carrying fun site json => (reader site json).map wrap))
      (inside : ReadsAt inner reader context) :
      ReadsAt inner (readChoice variants) fun json =>
        .object (before ++ (some name, context json) :: after)
  /-- A reference, as a record in which references are read. -/
  | reference {context : Json → Json} (inside : ReadsAt inner (readReference typeRef.read) context) :
      ReadsAt inner typeRef.read context
  /-- The value of a member of a declaration, whose tag stands among the others. -/
  | contentMember {σ α : Type} {types : List Type} {name : String} {fields : RecordFields σ types}
      {make : Values types → σ} {field : RecordField σ α} {form : DeclarationForm} {tag : Json}
      {context : Json → Json} (before after : List (Option String × Json))
      (has_content : form.HasContent (readRecord name fields make))
      (tag_mem : (some tagName, tag) ∈ before ++ after) (tag_read : readTag tag = .ok form)
      (finds : fields.Finds field) (inside : ReadsAt inner field.codec.read context) :
      ReadsAt inner readDeclaration fun json =>
        .object (before ++ (some field.name, context json) :: after)
  /-- An item of a declaration by position, after its tag. -/
  | contentElement {σ α : Type} {types : List Type} {name : String} {fields : RecordFields σ types}
      {make : Values types → σ} {field : RecordField σ α} {form : DeclarationForm} {tag : Json}
      {context : Json → Json} (before after : List Json)
      (has_content : form.HasContent (readRecord name fields make))
      (tag_read : readTag tag = .ok form) (has : fields.HasAt before.length field)
      (inside : ReadsAt inner field.codec.read context) :
      ReadsAt inner readDeclaration fun json => .array (tag :: (before ++ context json :: after))

/-! ## Declarations -/

theorem mem_entries {name : String} {json : Json} {members : List (Option String × Json)}
    (member_mem : (some name, json) ∈ members) : json ∈ entries name members :=
  List.mem_map.mpr ⟨_, List.mem_filter.mpr ⟨member_mem, beq_self_eq_true _⟩, rfl⟩

theorem FindsTag.length_eq {found : List Json} {form : DeclarationForm}
    (finds : FindsTag none found (some form)) : found.length = 1 := by
  cases finds with
  | given read => rfl

theorem FindsTag.form_eq {members : List (Option String × Json)} {tag : Json}
    {form found : DeclarationForm} (finds : FindsTag none (entries tagName members) (some found))
    (tag_mem : (some tagName, tag) ∈ members) (tag_read : readTag tag = .ok form) : form = found := by
  have tag_found := mem_entries tag_mem
  generalize entries tagName members = given at finds tag_found
  cases finds with
  | given read =>
      rw [List.mem_singleton.mp tag_found] at tag_read
      exact Except.ok.inj (tag_read.symm.trans read)

/-- Beside a tag no other member has its name. -/
theorem FindsTag.ne_of_mem {before after : List (Option String × Json)} {name : String}
    {json tag : Json} {form : DeclarationForm}
    (finds : FindsTag none (entries tagName (before ++ (some name, json) :: after)) (some form))
    (tag_mem : (some tagName, tag) ∈ before ++ after) : name ≠ tagName := by
  rintro rfl
  have one := finds.length_eq
  have another := List.length_pos_of_mem (mem_entries tag_mem)
  rw [entries_append, List.length_append] at one another
  rw [entries_cons_same, List.length_cons] at one
  omega

theorem readDeclaration_opens {site : Site} {json : Json} {whole : Declaration}
    (read : readDeclaration site json = .ok whole) :
    ∃ levels, site = ⟨site.isReadAhead, levels + 1⟩ := by
  obtain ⟨ahead, _ | levels⟩ := site
  · unfold readDeclaration at read
    dsimp only at read
    split at read
    · cases read
    · cases read
    · exact absurd read mismatch_ne_ok
  · exact ⟨levels, rfl⟩

theorem SoundBeside.mono {levels : Nat} {members others : List (Option String × Json)}
    (beside : SoundBeside levels members) (fewer : others ⊆ members) : SoundBeside levels others :=
  fun member member_mem => beside member (fewer member_mem)

/-- A declaration is read as its content, whatever comes of that. -/
theorem readDeclaration_object_of_tag {form : DeclarationForm} {ahead : Bool} {levels : Nat}
    {members : List (Option String × Json)}
    (finds : FindsTag none (entries tagName members) (some form))
    (beside : SoundBeside levels (without tagName members)) :
    readDeclaration ⟨ahead, levels + 1⟩ (.object members) =
      readContent form ⟨true, levels + 1⟩ (.object (without tagName members)) := by
  have split_eq := (splitTag_eq_ok_iff ..).mpr ⟨finds, rfl, beside⟩
  simp only [readDeclaration, Site.inside, Bind.bind, Except.bind, split_eq]

theorem readDeclaration_array_of_tag {form : DeclarationForm} {ahead : Bool} {levels : Nat}
    {tag : Json} {items : List Json} (tag_read : readTag tag = .ok form)
    (sound : ∀ item ∈ items, item.isSound levels = true) :
    readDeclaration ⟨ahead, levels + 1⟩ (.array (tag :: items)) =
      readContent form ⟨true, levels + 1⟩ (.array items) := by
  have all_sound := (Json.areSound_iff ..).mpr sound
  simp only [readDeclaration, Site.inside, Bind.bind, Except.bind, tag_read, all_sound, if_true]

/-! ## Faults of parts -/

namespace RecordFields

theorem fillAll_append (fields : RecordFields σ types) (site : Site) (slots : Slots types)
    (before after : List (Option String × Json)) :
    fields.fillAll site slots (before ++ after) =
      fields.fillAll site slots before >>= fun filled => fields.fillAll site filled after := by
  induction before generalizing slots with
  | nil => rfl
  | cons member before ih =>
      obtain ⟨_ | key, json⟩ := member
      · rfl
      · rw [List.cons_append, fillAll, fillAll]
        cases fields.fill? slots site key json with
        | none =>
            cases json.isReadable with
            | true => exact ih slots
            | false => rfl
        | some result =>
            cases result with
            | error fault => rfl
            | ok filled => exact ih filled

/-- Where a member of a field fills its slot, a value that the field cannot read is its fault. -/
theorem Finds.fill?_of_error {fields : RecordFields σ types} {field : RecordField σ α}
    (finds : fields.Finds field) {site : Site} {slots filled : Slots types} {json other : Json}
    {fault : Fault} (fills : fields.fill? slots site field.name json = some (.ok filled))
    (failed : field.codec.read site other = .error fault) :
    fields.fill? slots site field.name other = some (.error fault) := by
  induction finds with
  | here =>
      obtain ⟨slot, slots⟩ := slots
      rw [fill?, if_pos rfl] at fills ⊢
      cases slot with
      | some value => cases fills
      | none => rw [failed]; rfl
  | there different _ ih =>
      obtain ⟨slot, slots⟩ := slots
      rw [fill?, if_neg different.symm] at fills ⊢
      obtain ⟨result, rest_fills, mapped⟩ := Option.map_eq_some_iff.mp fills
      obtain ⟨rest_filled, rfl, -⟩ := map_eq_ok_iff.mp mapped
      rw [ih rest_fills failed]
      rfl

theorem Finds.fill?_ne_none {fields : RecordFields σ types} {field : RecordField σ α}
    (finds : fields.Finds field) (slots : Slots types) (site : Site) (json : Json) :
    fields.fill? slots site field.name json ≠ none := by
  induction finds with
  | here =>
      obtain ⟨slot, slots⟩ := slots
      rw [fill?, if_pos rfl]
      exact Option.some_ne_none _
  | there different _ ih =>
      obtain ⟨slot, slots⟩ := slots
      rw [fill?, if_neg different.symm]
      exact fun unfilled => ih slots (Option.map_eq_none_iff.mp unfilled)

theorem Finds.fillAll_of_error {fields : RecordFields σ types} {field : RecordField σ α}
    (finds : fields.Finds field) {site : Site} {slots filled : Slots types}
    {before after : List (Option String × Json)} {json other : Json} {fault : Fault}
    (fills : fields.fillAll site slots (before ++ (some field.name, json) :: after) = .ok filled)
    (failed : field.codec.read site other = .error fault) :
    fields.fillAll site slots (before ++ (some field.name, other) :: after) = .error fault := by
  rw [fillAll_append] at fills ⊢
  obtain ⟨before_slots, before_fills, later_fills⟩ := ok_of_bind_eq_ok fills
  rw [before_fills]
  change fields.fillAll site before_slots ((some field.name, other) :: after) = _
  rw [fillAll] at later_fills
  split at later_fills
  · next result fill_eq =>
      obtain ⟨field_slots, result_eq, -⟩ := ok_of_bind_eq_ok later_fills
      rw [result_eq] at fill_eq
      rw [fillAll, finds.fill?_of_error fill_eq failed]
      rfl
  · next fill_eq => exact absurd fill_eq (finds.fill?_ne_none before_slots site json)

/-- An item that its field cannot read is the fault of the record. -/
theorem HasAt.readItems_of_error {place : Nat} {fields : RecordFields σ types}
    {field : RecordField σ α} (has : fields.HasAt place field) {site : Site}
    {before after : List Json} {json other : Json} {values : Values types} {fault : Fault}
    (place_eq : before.length = place)
    (reads : fields.ReadsItems site (before ++ json :: after) values)
    (failed : field.codec.read site other = .error fault) (expected : String) (count : Nat) :
    fields.readItems site expected count (before ++ other :: after) = .error fault := by
  induction has generalizing before count with
  | here =>
      obtain rfl := List.length_eq_zero_iff.mp place_eq
      rw [List.nil_append, readItems, failed]
      rfl
  | there has ih =>
      obtain ⟨first_value, values⟩ := values
      obtain ⟨head, before, rfl⟩ := List.exists_cons_of_length_eq_add_one place_eq
      obtain ⟨first_reads, rest_reads⟩ := reads
      have head_read := RecordField.readsFrom_singleton_iff.mp first_reads
      rw [List.cons_append, readItems, head_read, ih (Nat.succ.inj place_eq) rest_reads failed]
      rfl

end RecordFields

section Records

variable {σ α : Type} {types : List Type} {name : String} {fields : RecordFields σ types}
  {make : Values types → σ} {field : RecordField σ α} {site : Site} {json : Json} {whole : σ}

/-- A record reads the value of a member with its field, whose faults are its own. -/
theorem readRecord_member (finds : fields.Finds field) {before after : List (Option String × Json)}
    (read : readRecord name fields make site
      (.object (before ++ (some field.name, json) :: after)) = .ok whole) :
    ∃ inside value, field.codec.read inside json = .ok value ∧
      ∀ other fault, field.codec.read inside other = .error fault →
        readRecord name fields make site (.object (before ++ (some field.name, other) :: after)) =
          .error fault := by
  obtain ⟨levels, site_eq⟩ := readRecord_opens read
  rw [site_eq] at read ⊢
  obtain ⟨values, reads, -⟩ := readRecord_object_iff.mp read
  obtain ⟨value, json_read, -⟩ := reads.focus finds
  obtain ⟨slots, filled, -⟩ := (RecordFields.fillAll_close_iff ..).mpr reads
  refine ⟨_, value, json_read, fun other fault failed => ?_⟩
  simp only [readRecord, Site.inside, Bind.bind, Except.bind, finds.fillAll_of_error filled failed]

/-- A record by position reads an item with the field in its place, whose faults are its own. -/
theorem readRecord_element {before after : List Json} (has : fields.HasAt before.length field)
    (read : readRecord name fields make site (.array (before ++ json :: after)) = .ok whole) :
    ∃ inside value, field.codec.read inside json = .ok value ∧
      ∀ other fault, field.codec.read inside other = .error fault →
        readRecord name fields make site (.array (before ++ other :: after)) = .error fault := by
  obtain ⟨levels, site_eq⟩ := readRecord_opens read
  rw [site_eq] at read ⊢
  obtain ⟨values, reads, -⟩ := readRecord_array_iff.mp read
  obtain ⟨value, json_read, -⟩ := reads.focus has rfl
  refine ⟨_, value, json_read, fun other fault failed => ?_⟩
  simp only [readRecord, Site.inside, Bind.bind, Except.bind, has.readItems_of_error rfl reads failed]

end Records

theorem mapM_of_error {read : Json → Except Fault α} {before after : List Json} {json other : Json}
    {values : List α} {fault : Fault} (run : (before ++ json :: after).mapM read = .ok values)
    (failed : read other = .error fault) :
    (before ++ other :: after).mapM read = .error fault := by
  induction before generalizing values with
  | nil =>
      rw [List.nil_append, List.mapM_cons, failed]
      rfl
  | cons first before ih =>
      rw [List.cons_append, List.mapM_cons] at run ⊢
      obtain ⟨first_value, first_read, later_run⟩ := ok_of_bind_eq_ok run
      obtain ⟨later_values, later_read, -⟩ := ok_of_bind_eq_ok later_run
      rw [first_read, ih later_read]
      rfl

theorem list_opens {codec : Codec α} {site : Site} {items : List Json} {values : List α}
    (read : (list codec).read site (.array items) = .ok values) :
    ∃ levels, site = ⟨site.isReadAhead, levels + 1⟩ := by
  obtain ⟨ahead, _ | levels⟩ := site
  · cases read
  · exact ⟨levels, rfl⟩

/-- A choice is read from an object with one member only, inside a level. -/
theorem readChoice_object {variants : List (String × Variant α)} {site : Site}
    {members : List (Option String × Json)} {value : α}
    (read : readChoice variants site (.object members) = .ok value) :
    (∃ member, members = [member]) ∧ ∃ levels, site = ⟨site.isReadAhead, levels + 1⟩ := by
  obtain ⟨ahead, levels⟩ := site
  have opens {later : Site → Except Fault α} (run : Site.inside ⟨ahead, levels⟩ >>= later = .ok value) :
      ∃ inner, (⟨ahead, levels⟩ : Site) = ⟨ahead, inner + 1⟩ := by
    cases levels with
    | zero => cases run
    | succ inner => exact ⟨inner, rfl⟩
  cases members with
  | nil => cases ahead <;> cases read
  | cons member rest =>
      obtain ⟨_ | name, json⟩ := member
      · cases ahead <;> cases read
      · cases ahead with
        | true =>
            cases rest with
            | nil => exact ⟨⟨_, rfl⟩, opens read⟩
            | cons next rest => cases read
        | false =>
            refine ⟨?_, opens read⟩
            obtain ⟨inside, -, run⟩ := ok_of_bind_eq_ok read
            obtain ⟨variant, -, run⟩ := ok_of_bind_eq_ok run
            obtain ⟨found, -, ended⟩ := ok_of_bind_eq_ok run
            cases rest with
            | nil => exact ⟨_, rfl⟩
            | cons next rest => cases ended

theorem nullable_read_eq {codec : Codec α} {json : Json} (is_given : json ≠ .null) (site : Site) :
    (nullable codec).read site json = (codec.read site json).map some := by
  cases json with
  | null => exact absurd rfl is_given
  | _ => rfl

/-! ## Soundness of parts -/

/-- In whatever levels the value is sound, so is the other. -/
def StaysSound (json other : Json) : Prop :=
  ∀ levels, json.isSound levels = true → other.isSound levels = true

namespace StaysSound

theorem fewer {members others : List (Option String × Json)} (fewer : others ⊆ members) :
    StaysSound (.object members) (.object others) := by
  rintro (_ | levels) sound
  · cases sound
  · rw [isSound_object_iff] at sound ⊢
    exact sound.mono fewer

theorem member {json other : Json} (stays : StaysSound json other)
    (before after : List (Option String × Json)) {key : Option String} :
    StaysSound (.object (before ++ (key, json) :: after))
      (.object (before ++ (key, other) :: after)) := by
  rintro (_ | levels) sound
  · cases sound
  · exact isSound_object_of_focus before after (stays levels) sound

theorem item {json other : Json} (stays : StaysSound json other) (before after : List Json) :
    StaysSound (.array (before ++ json :: after)) (.array (before ++ other :: after)) := by
  rintro (_ | levels) sound
  · cases sound
  · exact isSound_array_of_focus before after (stays levels) sound

end StaysSound

/-! ## Objects at places -/

/-- The object of the members is read by the inner reader somewhere, and for any object with fewer
members the fault that this reader finds there is the outcome. -/
def PassesOn (inner : Reader β) (members : List (Option String × Json))
    (outcome : List (Option String × Json) → Except Fault α) : Prop :=
  ∃ inside value, inner inside (.object members) = .ok value ∧
    ∀ others fault, others ⊆ members → inner inside (.object others) = .error fault →
      outcome others = .error fault

theorem PassesOn.mono {inner : Reader β} {members : List (Option String × Json)}
    {outcome : List (Option String × Json) → Except Fault α}
    {later : List (Option String × Json) → Except Fault γ} (passes : PassesOn inner members outcome)
    (on : ∀ others fault, others ⊆ members → outcome others = .error fault →
      later others = .error fault) : PassesOn inner members later := by
  obtain ⟨inside, value, inner_read, reaches⟩ := passes
  exact ⟨inside, value, inner_read, fun others fault fewer failed =>
    on others fault fewer (reaches others fault fewer failed)⟩

section Places

variable {α β : Type} {inner : Reader β} {reader : Reader α} {context : Json → Json}
  {members others : List (Option String × Json)}

/-- An object is never left open, nor is what it stands in. -/
theorem ReadsAt.ne_null (place : ReadsAt inner reader context)
    (members : List (Option String × Json)) : context (.object members) ≠ .null := by
  induction place with
  | given _ ih => exact ih
  | reference _ ih => exact ih
  | _ => exact nofun

/-- With fewer members at a place, a sound value stays sound. -/
theorem ReadsAt.staysSound (place : ReadsAt inner reader context) (fewer : others ⊆ members) :
    StaysSound (context (.object members)) (context (.object others)) := by
  induction place with
  | here => exact .fewer fewer
  | member before after _ _ ih => exact ih.member before after
  | element before after _ _ ih => exact ih.item before after
  | item before after _ ih => exact ih.item before after
  | given _ ih => exact ih
  | carried before after _ _ ih => exact ih.member before after
  | reference _ ih => exact ih
  | contentMember before after _ _ _ _ _ ih => exact ih.member before after
  | @contentElement _ _ _ _ _ _ _ _ tag _ before after _ _ _ _ ih => exact ih.item (tag :: before) after

/-- A value is read through the object at its place, and if one with fewer members is not read there,
its fault is that of the whole value. -/
theorem ReadsAt.focus (place : ReadsAt inner reader context) {site : Site} {whole : α}
    (read : reader site (context (.object members)) = .ok whole) :
    PassesOn inner members fun others => reader site (context (.object others)) := by
  induction place generalizing site with
  | here => exact ⟨site, whole, read, fun others fault _ failed => failed⟩
  | member before after finds _ ih =>
      obtain ⟨below, value, value_read, passes⟩ := readRecord_member finds read
      exact (ih value_read).mono fun others fault _ failed => passes _ fault failed
  | element before after has _ ih =>
      obtain ⟨below, value, value_read, passes⟩ := readRecord_element has read
      exact (ih value_read).mono fun others fault _ failed => passes _ fault failed
  | @item _ codec _ before after _ ih =>
      obtain ⟨levels, site_eq⟩ := list_opens read
      rw [site_eq] at read ⊢
      obtain ⟨value, value_read, -⟩ := mapM_focus (codec.read ⟨site.isReadAhead, levels⟩) read
      exact (ih value_read).mono fun others fault _ failed => mapM_of_error read failed
  | @given _ codec context inside ih =>
      rw [nullable_read_eq (inside.ne_null members)] at read
      obtain ⟨value, value_read, -⟩ := map_eq_ok_iff.mp read
      refine (ih value_read).mono fun others fault _ failed => ?_
      rw [nullable_read_eq (inside.ne_null others), failed]
      rfl
  | @carried _ _ variants name _ wrap context before after found _ ih =>
      obtain ⟨⟨only, members_eq⟩, levels, site_eq⟩ := readChoice_object read
      obtain ⟨rfl, only_eq⟩ | ⟨-, none_left⟩ := List.append_eq_singleton_iff.mp members_eq
      · obtain rfl : after = [] := (List.cons.inj only_eq).2
        have carried_eq (json : Json) := readChoice_tagged found site.isReadAhead levels json
        rw [← site_eq] at carried_eq
        obtain ⟨value, value_read, -⟩ := map_eq_ok_iff.mp ((carried_eq _).symm.trans read)
        exact (ih value_read).mono fun others fault _ failed =>
          (carried_eq _).trans (congrArg (Except.map wrap) failed)
      · cases none_left
  | reference _ ih =>
      rw [typeRef_read_eq] at read ⊢
      exact ih read
  | @contentMember _ _ _ _ _ _ field form tag context before after has_content tag_mem tag_read finds
      inside ih =>
      obtain ⟨levels, site_eq⟩ := readDeclaration_opens read
      rw [site_eq] at read ⊢
      obtain ⟨found, finds_tag, beside, content_read⟩ := readDeclaration_object_iff.mp read
      have tag_mem_whole :=
        ((List.sublist_cons_self (some field.name, context (.object members)) after).append_left
          before).subset tag_mem
      obtain rfl := finds_tag.form_eq tag_mem_whole tag_read
      have other_name : some field.name ≠ some tagName := fun same =>
        finds_tag.ne_of_mem tag_mem (Option.some.inj same)
      rw [without_append, without_cons_other other_name] at content_read beside
      obtain ⟨wrap, content_eq⟩ := has_content
      rw [content_eq] at content_read
      obtain ⟨content, record_read, -⟩ := map_eq_ok_iff.mp content_read
      obtain ⟨below, value, value_read, passes⟩ := readRecord_member finds record_read
      refine (ih value_read).mono fun others fault fewer failed => ?_
      have still_tagged : FindsTag none (entries tagName
          (before ++ (some field.name, context (.object others)) :: after)) (some form) := by
        rw [entries_append, entries_cons_other other_name] at finds_tag ⊢
        exact finds_tag
      have still_beside : SoundBeside levels (without tagName
          (before ++ (some field.name, context (.object others)) :: after)) := by
        rw [without_append, without_cons_other other_name]
        exact forall_mem_of_focus beside (And.imp_right (inside.staysSound fewer levels))
      rw [readDeclaration_object_of_tag still_tagged still_beside, content_eq, without_append,
        without_cons_other other_name, passes _ fault failed]
      rfl
  | @contentElement _ _ _ _ _ _ field form tag context before after has_content tag_read has inside
      ih =>
      obtain ⟨levels, site_eq⟩ := readDeclaration_opens read
      rw [site_eq] at read ⊢
      obtain ⟨found, found_read, sound, content_read⟩ := readDeclaration_array_iff.mp read
      obtain rfl := Except.ok.inj (tag_read.symm.trans found_read)
      obtain ⟨wrap, content_eq⟩ := has_content
      rw [content_eq] at content_read
      obtain ⟨content, record_read, -⟩ := map_eq_ok_iff.mp content_read
      obtain ⟨below, value, value_read, passes⟩ := readRecord_element has record_read
      refine (ih value_read).mono fun others fault fewer failed => ?_
      have still_sound := forall_mem_of_focus sound (inside.staysSound fewer levels)
      rw [readDeclaration_array_of_tag tag_read still_sound, content_eq, passes _ fault failed]
      rfl

end Places

end HeaderForge.Manifest
