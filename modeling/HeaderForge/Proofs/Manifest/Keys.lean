import HeaderForge.Proofs.Manifest.Places

/-!
# Keys of records

Wherever a record of a unit is read from an object, the object has each key of the record at most once,
and each that is needed exactly once. If keys that are needed are left out of one object of a unit that
is otherwise fit to be read, the fault names the first of them in the order of the record.

The first half follows from what the fields of a record are read from; the second from the slots that
stay empty, of which the first is noticed. Both are said of one object, and carry over to the whole
manifest from the place where the object stands.
-/

namespace HeaderForge.Manifest

/-! ## Keys -/

/-- A key of the object of a record. -/
structure RecordKey where
  /-- The name. -/
  name : String
  /-- Whether it must be given. -/
  isNeeded : Bool
deriving DecidableEq, Repr

/-- The keys of a record, in the order of its fields. -/
def RecordFields.keys : RecordFields σ types → List RecordKey
  | nil => []
  | cons field rest => ⟨field.name, field.absent.isNone⟩ :: rest.keys

/-- The key of the tag of a declaration. -/
def tagKey : RecordKey := ⟨tagName, true⟩

/-- The keys that the reader knows in an object with the members. Those of a declaration depend on its
tag; without one, only the tag is known. -/
inductive KnowsKeys : {β : Type} → Reader β → List (Option String × Json) → List RecordKey → Prop
  | record {σ : Type} {types : List Type} {name : String} {fields : RecordFields σ types}
      {make : Values types → σ} (members : List (Option String × Json)) :
      KnowsKeys (readRecord name fields make) members fields.keys
  | untagged (members : List (Option String × Json)) : KnowsKeys readDeclaration members [tagKey]
  | declaration {σ : Type} {types : List Type} {name : String} {fields : RecordFields σ types}
      {make : Values types → σ} {form : DeclarationForm} {tag : Json}
      {members : List (Option String × Json)}
      (has_content : form.HasContent (readRecord name fields make))
      (tag_mem : (some tagName, tag) ∈ members) (tag_read : readTag tag = .ok form) :
      KnowsKeys readDeclaration members (tagKey :: fields.keys)

/-- No key is given twice, and those that are needed are given. -/
def AreGiven (keys : List RecordKey) (members : List (Option String × Json)) : Prop :=
  ∀ key ∈ keys, (entries key.name members).length ≤ 1 ∧
    (key.isNeeded = true → (entries key.name members).length = 1)

/-- The members without those of the names. -/
def lacking (removed : List String) (members : List (Option String × Json)) :
    List (Option String × Json) :=
  members.filter fun member => member.1.all fun name => !removed.contains name

/-- Of the keys, only such as are needed are removed, and the given one is the first of these. -/
structure Lacks (removed : List String) (keys : List RecordKey) (first : RecordKey) : Prop where
  needed : ∀ key ∈ keys, removed.contains key.name = true → key.isNeeded = true
  find_eq : keys.find? (fun key => removed.contains key.name) = some first

/-- The first key is removed and is the one that is lacking, or it is kept. -/
theorem Lacks.uncons {removed : List String} {key first : RecordKey} {keys : List RecordKey}
    (lacks : Lacks removed (key :: keys) first) :
    (removed.contains key.name = true ∧ first = key ∧ key.isNeeded = true) ∨
      (¬removed.contains key.name = true ∧ Lacks removed keys first) := by
  obtain ⟨needed, find_eq⟩ := lacks
  by_cases gone : removed.contains key.name = true
  · rw [List.find?_cons, gone] at find_eq
    exact .inl ⟨gone, (Option.some.inj find_eq).symm, needed key List.mem_cons_self gone⟩
  · rw [List.find?_cons, Bool.eq_false_of_not_eq_true gone] at find_eq
    exact .inr ⟨gone, fun other other_mem => needed other (List.mem_cons_of_mem _ other_mem), find_eq⟩

theorem entries_lacking (removed : List String) (name : String)
    (members : List (Option String × Json)) :
    entries name (lacking removed members) =
      if removed.contains name then [] else entries name members := by
  have kept (member : Option String × Json) :
      (member.1 == some name && member.1.all fun name => !removed.contains name) =
        (member.1 == some name && !removed.contains name) := by
    by_cases same : member.1 = some name
    · rw [same, Option.all_some]
    · rw [beq_eq_false_iff_ne.mpr same, Bool.false_and, Bool.false_and]
  rw [entries, lacking, List.filter_filter, List.filter_congr fun member _ => kept member]
  cases removed.contains name <;> simp [entries]

theorem without_eq_lacking (name : String) (members : List (Option String × Json)) :
    without name members = lacking [name] members := by
  refine List.filter_congr fun member _ => ?_
  cases member.1 with
  | none => rfl
  | some other => by_cases same : other = name <;> simp [same]

theorem without_lacking (removed : List String) (name : String)
    (members : List (Option String × Json)) :
    without name (lacking removed members) = lacking removed (without name members) :=
  List.filter_comm ..

theorem lacking_subset (removed : List String) (members : List (Option String × Json)) :
    lacking removed members ⊆ members :=
  List.filter_sublist.subset

theorem entries_without (name other : String) (members : List (Option String × Json)) :
    entries name (without other members) = if name = other then [] else entries name members := by
  rw [without_eq_lacking, entries_lacking]
  simp

/-! ## Keys given -/

theorem AreGiven.of_without {name : String} {keys : List RecordKey}
    {members : List (Option String × Json)} (at_most : (entries name members).length ≤ 1)
    (given : AreGiven keys (without name members)) : AreGiven keys members := by
  intro key key_mem
  obtain ⟨le, needed⟩ := given key key_mem
  rw [entries_without] at le needed
  split at needed
  · next same =>
      rw [same]
      exact ⟨at_most, fun is_needed => absurd (needed is_needed) (by decide)⟩
  · next different =>
      rw [if_neg different] at le
      exact ⟨le, needed⟩

theorem AreGiven.cons {key : RecordKey} {keys : List RecordKey}
    {members : List (Option String × Json)} (at_most : (entries key.name members).length ≤ 1)
    (needed : key.isNeeded = true → (entries key.name members).length = 1)
    (given : AreGiven keys (without key.name members)) : AreGiven (key :: keys) members :=
  List.forall_mem_cons.mpr ⟨⟨at_most, needed⟩, given.of_without at_most⟩

/-- What fields are read from has their keys. -/
theorem RecordFields.ReadsMembers.areGiven {fields : RecordFields σ types} {site : Site}
    {members : List (Option String × Json)} {values : Values types}
    (reads : fields.ReadsMembers site members values) : AreGiven fields.keys members := by
  induction fields generalizing members with
  | nil => exact nofun
  | cons field rest ih =>
      obtain ⟨value, values⟩ := values
      obtain ⟨field_reads, rest_reads⟩ := reads
      have rest_given := ih rest_reads
      generalize found_eq : entries field.name members = found at field_reads
      cases field_reads with
      | given read =>
          exact .cons (by rw [found_eq]; exact Nat.le_refl 1) (fun _ => by rw [found_eq]; rfl) rest_given
      | leftOut absent =>
          refine .cons (by rw [found_eq]; exact Nat.zero_le 1) (fun needed => ?_) rest_given
          rw [absent] at needed
          cases needed

/-- An object that is read has the keys that its reader knows. -/
theorem KnowsKeys.areGiven {reader : Reader α} {members : List (Option String × Json)}
    {keys : List RecordKey} (known : KnowsKeys reader members keys) {site : Site} {value : α}
    (read : reader site (.object members) = .ok value) : AreGiven keys members := by
  cases known with
  | record members =>
      obtain ⟨levels, site_eq⟩ := readRecord_opens read
      rw [site_eq] at read
      obtain ⟨values, reads, -⟩ := readRecord_object_iff.mp read
      exact reads.areGiven
  | untagged members =>
      obtain ⟨levels, site_eq⟩ := readDeclaration_opens read
      rw [site_eq] at read
      obtain ⟨form, finds, -, -⟩ := readDeclaration_object_iff.mp read
      exact .cons finds.length_eq.le (fun _ => finds.length_eq) nofun
  | declaration has_content tag_mem tag_read =>
      obtain ⟨levels, site_eq⟩ := readDeclaration_opens read
      rw [site_eq] at read
      obtain ⟨form, finds, -, content_read⟩ := readDeclaration_object_iff.mp read
      obtain rfl := finds.form_eq tag_mem tag_read
      obtain ⟨wrap, content_eq⟩ := has_content
      rw [content_eq] at content_read
      obtain ⟨content, record_read, -⟩ := map_eq_ok_iff.mp content_read
      obtain ⟨values, reads, -⟩ := readRecord_object_iff.mp record_read
      exact .cons finds.length_eq.le (fun _ => finds.length_eq) reads.areGiven

/-! ## Keys left out -/

namespace RecordFields

theorem close_cons_of_error {field : RecordField σ α} {rest : RecordFields σ types}
    {slot : Option α} {slots : Slots types} {value : α} {fault : Fault}
    (closed : slot.or field.absent = some value) (rest_error : rest.close slots = .error fault) :
    (cons field rest).close (slot, slots) = .error fault := by
  cases slot with
  | some found => simp only [close, rest_error, Bind.bind, Except.bind]
  | none =>
      rw [Option.none_or] at closed
      simp only [close, closed, rest_error, Bind.bind, Except.bind]

/-- Members that were read still fill the slots when some of them are left out. -/
theorem fillAll_lacking {fields : RecordFields σ types} {site : Site}
    {members : List (Option String × Json)} {values : Values types} (removed : List String)
    (reads : fields.ReadsMembers site members values) :
    ∃ slots, fields.fillAll site fields.emptySlots (lacking removed members) = .ok slots := by
  induction fields generalizing members with
  | nil =>
      exact (fillAll_nil_eq_ok_iff site _).mpr fun member member_mem =>
        reads member (lacking_subset removed members member_mem)
  | cons field rest ih =>
      obtain ⟨value, values⟩ := values
      obtain ⟨field_reads, rest_reads⟩ := reads
      obtain ⟨slots, rest_filled⟩ := ih rest_reads
      rw [← without_lacking] at rest_filled
      obtain ⟨slot, fills, -⟩ := (fills_none_iff field site _ value).mpr field_reads
      by_cases gone : removed.contains field.name = true
      · refine ⟨(none, slots), (fillAll_cons_eq_ok_iff ..).mpr ⟨?_, rest_filled⟩⟩
        rw [entries_lacking, if_pos gone]
        exact .kept none
      · refine ⟨(slot, slots), (fillAll_cons_eq_ok_iff ..).mpr ⟨?_, rest_filled⟩⟩
        rw [entries_lacking, if_neg gone]
        exact fills

/-- The first key that is needed and left out is the one that is missed. -/
theorem close_lacking {fields : RecordFields σ types} {site : Site}
    {members : List (Option String × Json)} {values : Values types} {removed : List String}
    {first : RecordKey} (reads : fields.ReadsMembers site members values)
    (lacks : Lacks removed fields.keys first) :
    ∃ slots, fields.fillAll site fields.emptySlots (lacking removed members) = .ok slots ∧
      fields.close slots = .error (.missingField first.name) := by
  induction fields generalizing members with
  | nil => cases lacks.find_eq
  | cons field rest ih =>
      obtain ⟨value, values⟩ := values
      obtain ⟨gone, rfl, is_needed⟩ | ⟨kept, rest_lacks⟩ := lacks.uncons
      · obtain ⟨⟨slot, slots⟩, filled⟩ := fillAll_lacking removed reads
        have absent_eq : field.absent = none := Option.isNone_iff_eq_none.mp is_needed
        obtain ⟨slot_fills, -⟩ := (fillAll_cons_eq_ok_iff ..).mp filled
        rw [entries_lacking, if_pos gone, RecordField.fills_nil_iff] at slot_fills
        subst slot_fills
        exact ⟨_, filled, by simp only [close, absent_eq]; rfl⟩
      · obtain ⟨field_reads, rest_reads⟩ := reads
        obtain ⟨slots, rest_filled, rest_error⟩ := ih rest_reads rest_lacks
        rw [← without_lacking] at rest_filled
        obtain ⟨slot, fills, closed⟩ := (fills_none_iff field site _ value).mpr field_reads
        refine ⟨(slot, slots), (fillAll_cons_eq_ok_iff ..).mpr ⟨?_, rest_filled⟩,
          close_cons_of_error closed rest_error⟩
        rw [entries_lacking, if_neg kept]
        exact fills

end RecordFields

theorem readRecord_lacking {name : String} {fields : RecordFields σ types} {make : Values types → σ}
    {site : Site} {members : List (Option String × Json)} {whole : σ} {removed : List String}
    {first : RecordKey} (read : readRecord name fields make site (.object members) = .ok whole)
    (lacks : Lacks removed fields.keys first) :
    readRecord name fields make site (.object (lacking removed members)) =
      .error (.missingField first.name) := by
  obtain ⟨levels, site_eq⟩ := readRecord_opens read
  rw [site_eq] at read ⊢
  obtain ⟨values, reads, -⟩ := readRecord_object_iff.mp read
  obtain ⟨slots, filled, missed⟩ := RecordFields.close_lacking reads lacks
  simp only [readRecord, Site.inside, Bind.bind, Except.bind, filled, missed]

theorem readDeclaration_object_untagged {ahead : Bool} {levels : Nat}
    {members : List (Option String × Json)} (untagged : entries tagName members = [])
    (beside : SoundBeside levels (without tagName members)) :
    readDeclaration ⟨ahead, levels + 1⟩ (.object members) = .error (.missingField tagName) := by
  have finds : FindsTag none (entries tagName members) none := by
    rw [untagged]
    exact .kept none
  have split_eq := (splitTag_eq_ok_iff ..).mpr ⟨finds, rfl, beside⟩
  simp only [readDeclaration, Site.inside, Bind.bind, Except.bind, split_eq]

theorem readDeclaration_lacking_tag {site : Site} {members : List (Option String × Json)}
    {whole : Declaration} {removed : List String}
    (read : readDeclaration site (.object members) = .ok whole)
    (gone : removed.contains tagName = true) :
    readDeclaration site (.object (lacking removed members)) = .error (.missingField tagName) := by
  obtain ⟨levels, site_eq⟩ := readDeclaration_opens read
  rw [site_eq] at read ⊢
  obtain ⟨form, -, beside, -⟩ := readDeclaration_object_iff.mp read
  refine readDeclaration_object_untagged (by rw [entries_lacking, if_pos gone]) ?_
  rw [without_lacking]
  exact beside.mono (lacking_subset removed _)

/-- An object that is read but for keys that are needed and left out is refused for the first of
them. -/
theorem KnowsKeys.missing {reader : Reader α} {members : List (Option String × Json)}
    {keys : List RecordKey} (known : KnowsKeys reader members keys) {site : Site} {value : α}
    {removed : List String} {first : RecordKey} (read : reader site (.object members) = .ok value)
    (lacks : Lacks removed keys first) :
    reader site (.object (lacking removed members)) = .error (.missingField first.name) := by
  cases known with
  | record members => exact readRecord_lacking read lacks
  | untagged members =>
      obtain ⟨gone, rfl, -⟩ | ⟨-, none_lacks⟩ := lacks.uncons
      · exact readDeclaration_lacking_tag read gone
      · cases none_lacks.find_eq
  | @declaration σ types name fields make form tag members has_content tag_mem tag_read =>
      obtain ⟨gone, rfl, -⟩ | ⟨kept, content_lacks⟩ := lacks.uncons
      · exact readDeclaration_lacking_tag read gone
      · change ¬removed.contains tagName = true at kept
        obtain ⟨levels, site_eq⟩ := readDeclaration_opens read
        rw [site_eq] at read ⊢
        obtain ⟨found, finds, beside, content_read⟩ := readDeclaration_object_iff.mp read
        obtain rfl := finds.form_eq tag_mem tag_read
        obtain ⟨wrap, content_eq⟩ := has_content
        rw [content_eq] at content_read
        obtain ⟨content, record_read, -⟩ := map_eq_ok_iff.mp content_read
        have tag_kept : FindsTag none (entries tagName (lacking removed members)) (some form) := by
          rw [entries_lacking, if_neg kept]
          exact finds
        have still_beside : SoundBeside levels (without tagName (lacking removed members)) := by
          rw [without_lacking]
          exact beside.mono (lacking_subset removed _)
        rw [readDeclaration_object_of_tag tag_kept still_beside, without_lacking, content_eq,
          readRecord_lacking record_read content_lacks]
        rfl

/-! ## Manifests -/

theorem parse_of_error {codec : Codec α} {text : String} {fault : Fault}
    (failed : codec.read ⟨false, maxLevels⟩ (Json.parse text).value = .error fault) :
    codec.parse text = .error fault := by
  rw [Codec.parse, Codec.readDocument, failed]
  rfl

/-- In a text that is read as a unit, every object of a record gives each known key at most once, and
each that is needed exactly once. -/
theorem parse_keys {β : Type} {inner : Reader β} {context : Json → Json}
    {members : List (Option String × Json)} {keys : List RecordKey}
    (place : ReadsAt inner sourceUnit.read context) (known : KnowsKeys inner members keys) :
    (∀ text unit, sourceUnit.parse text = .ok unit →
        (Json.parse text).value = context (.object members) → AreGiven keys members) ∧
      (∀ text, (Json.parse text).value = context (.object members) →
        (∃ key ∈ keys, 1 < (entries key.name members).length) →
          ∃ fault, sourceUnit.parse text = .error fault) ∧
      ∀ removed first text unit,
        sourceUnit.read ⟨false, maxLevels⟩ (context (.object members)) = .ok unit →
          Lacks removed keys first →
            (Json.parse text).value = context (.object (lacking removed members)) →
              sourceUnit.parse text = .error (.missingField first.name) := by
  have given (text : String) (unit : SourceUnit) (parsed : sourceUnit.parse text = .ok unit)
      (value_eq : (Json.parse text).value = context (.object members)) : AreGiven keys members := by
    have unit_read := read_of_readDocument parsed
    rw [value_eq] at unit_read
    obtain ⟨inside, value, inner_read, -⟩ := place.focus unit_read
    exact known.areGiven inner_read
  refine ⟨given, ?repeated, ?missing⟩
  case repeated =>
    rintro text value_eq ⟨key, key_mem, twice⟩
    cases parsed : sourceUnit.parse text with
    | error fault => exact ⟨fault, rfl⟩
    | ok unit =>
        have at_most := (given text unit parsed value_eq key key_mem).1
        omega
  case missing =>
    intro removed first text unit unit_read lacks value_eq
    obtain ⟨inside, value, inner_read, passes⟩ := place.focus unit_read
    have inner_failed := known.missing inner_read lacks
    refine parse_of_error ?_
    rw [value_eq]
    exact passes _ _ (lacking_subset removed members) inner_failed

/-- A manifest with one declaration. -/
def quarryOf (declared : Json) : Json :=
  .object [(some "types", .array [declared]), (some "source_file", .text "Quarry.java")]

theorem readsAt_quarryOf : ReadsAt readDeclaration sourceUnit.read quarryOf :=
  .member [] [(some "source_file", .text "Quarry.java")]
    (.there (by decide) <| .there (by decide) .here) (.item [] [] .here)

theorem quarryOf_isPlain {members : List (Option String × Json)}
    (plain : ∀ member ∈ members, member.1.isSome = true ∧ member.2.IsPlain) :
    (quarryOf (.object members)).IsPlain := by
  refine isPlain_object_iff.mpr (List.forall_mem_cons.mpr ⟨⟨rfl, .array ?_⟩, ?_⟩)
  · exact List.forall_mem_cons.mpr ⟨isPlain_object_iff.mpr plain, nofun⟩
  · exact List.forall_mem_cons.mpr ⟨⟨rfl, .text _⟩, nofun⟩

/-- The keys of the declaration of a class. -/
def classKeys : List RecordKey :=
  [⟨"declaration", true⟩, ⟨"binding", true⟩, ⟨"superclass", false⟩, ⟨"superinterfaces", false⟩,
   ⟨"modifiers", false⟩, ⟨"annotations", false⟩, ⟨"doc", false⟩, ⟨"fields", false⟩,
   ⟨"methods", false⟩, ⟨"top_level", false⟩]

theorem knowsKeys_class {members : List (Option String × Json)}
    (tag_mem : (some tagName, .text "type") ∈ members) :
    KnowsKeys readDeclaration members classKeys := by
  have has_content : DeclarationForm.ofType.HasContent typeDeclaration.read :=
    ⟨.ofType, fun _ _ => rfl⟩
  exact .declaration has_content tag_mem rfl

/-- A class whose tag comes last, with a member that is not known. -/
def stoneMembers : List (Option String × Json) :=
  [(some "note", .null), (some "binding", .ofMembers [("kind", .text "class"), ("name", .text "Stone")]),
   (some "declaration", .text "type")]

theorem stoneMembers_isPlain : ∀ member ∈ stoneMembers, member.1.isSome = true ∧ member.2.IsPlain := by
  refine List.forall_mem_cons.mpr ⟨⟨rfl, .null⟩, List.forall_mem_cons.mpr ⟨⟨rfl, .ofMembers ?_⟩, ?_⟩⟩
  · exact List.forall_mem_cons.mpr ⟨.text _, List.forall_mem_cons.mpr ⟨.text _, nofun⟩⟩
  · exact List.forall_mem_cons.mpr ⟨⟨rfl, .text _⟩, nofun⟩

theorem quarryOf_value {members : List (Option String × Json)}
    (plain : ∀ member ∈ members, member.1.isSome = true ∧ member.2.IsPlain) :
    (Json.parse (quarryOf (.object members)).print).value = quarryOf (.object members) := by
  rw [(quarryOf_isPlain plain).readsBack.parse_print]

/-- A class with all its keys, with one twice, without one, and without its tag as well. -/
theorem parse_keys_of_stone :
    AreGiven classKeys stoneMembers ∧
      (∃ fault, sourceUnit.parse (quarryOf (.object ((some "binding", .null) :: stoneMembers))).print =
        .error fault) ∧
      sourceUnit.parse (quarryOf (.object (lacking ["binding"] stoneMembers))).print =
        .error (.missingField "binding") ∧
      sourceUnit.parse (quarryOf (.object (lacking ["binding", "declaration"] stoneMembers))).print =
        .error (.missingField "declaration") := by
  have tag_mem : (some tagName, Json.text "type") ∈ stoneMembers := by simp [stoneMembers, tagName]
  have value_eq := quarryOf_value stoneMembers_isPlain
  have unit_read : ∃ unit,
      sourceUnit.read ⟨false, maxLevels⟩ (quarryOf (.object stoneMembers)) = .ok unit := ⟨_, rfl⟩
  obtain ⟨unit, unit_read⟩ := unit_read
  have parsed : sourceUnit.parse (quarryOf (.object stoneMembers)).print = .ok unit := by
    rw [Codec.parse, (quarryOf_isPlain stoneMembers_isPlain).readsBack.parse_print,
      Codec.readDocument, unit_read]
    rfl
  have fewer_plain (removed : List String) :
      ∀ member ∈ lacking removed stoneMembers, member.1.isSome = true ∧ member.2.IsPlain :=
    fun member member_mem => stoneMembers_isPlain member (lacking_subset removed _ member_mem)
  have more_plain : ∀ member ∈ (some "binding", .null) :: stoneMembers,
      member.1.isSome = true ∧ member.2.IsPlain :=
    List.forall_mem_cons.mpr ⟨⟨rfl, .null⟩, stoneMembers_isPlain⟩
  obtain ⟨given, -, missing⟩ := parse_keys readsAt_quarryOf (knowsKeys_class tag_mem)
  obtain ⟨-, repeated, -⟩ :=
    parse_keys readsAt_quarryOf (knowsKeys_class (List.mem_cons_of_mem (some "binding", .null) tag_mem))
  refine ⟨given _ unit parsed value_eq,
    repeated _ (quarryOf_value more_plain) ⟨⟨"binding", true⟩, by decide, by decide⟩, ?_, ?_⟩
  · exact missing ["binding"] ⟨"binding", true⟩ _ unit unit_read ⟨by decide, by decide⟩
      (quarryOf_value (fewer_plain _))
  · exact missing ["binding", "declaration"] ⟨"declaration", true⟩ _ unit unit_read
      ⟨by decide, by decide⟩ (quarryOf_value (fewer_plain _))

end HeaderForge.Manifest
