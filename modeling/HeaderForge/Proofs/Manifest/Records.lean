import HeaderForge.Proofs.Manifest.Codecs

/-!
# What records are read from

A record is read from an object if every field has at most one member, whose value it reads, or may be
left out, and what is left is readable. It is read from an array if the fields, in their order, read
the items, and those for which no item is left may be left out. Both are said field by field, so that
neither mentions the slots in which values are gathered, nor the order of members.
-/

namespace HeaderForge.Manifest

theorem ok_of_bind_eq_ok {first : Except Fault α} {later : α → Except Fault β} {value : β}
    (run : first >>= later = .ok value) : ∃ found, first = .ok found ∧ later found = .ok value := by
  cases first with
  | error fault => cases run
  | ok found => exact ⟨found, rfl, run⟩

theorem map_eq_ok_iff {found : Except Fault α} {wrap : α → β} {value : β} :
    found.map wrap = .ok value ↔ ∃ inner, found = .ok inner ∧ wrap inner = value := by
  cases found with
  | error fault => simp [Except.map]
  | ok inner => simp [Except.map]

theorem mismatch_ne_ok {expected : String} {json : Json} {value : α} :
    mismatch expected json ≠ .ok value := by
  unfold mismatch
  split <;> exact nofun

/-- The values of the members of a name. -/
def entries (name : String) (members : List (Option String × Json)) : List Json :=
  (members.filter fun member => member.1 == some name).map Prod.snd

/-- The members of other names. -/
def without (name : String) (members : List (Option String × Json)) : List (Option String × Json) :=
  members.filter fun member => member.1 != some name

@[simp] theorem entries_nil (name : String) : entries name [] = [] := rfl

@[simp] theorem without_nil (name : String) : without name [] = [] := rfl

theorem entries_cons_same (name : String) (json : Json) (members : List (Option String × Json)) :
    entries name ((some name, json) :: members) = json :: entries name members := by
  simp [entries]

theorem entries_cons_other {name : String} {key : Option String} (other : key ≠ some name)
    (json : Json) (members : List (Option String × Json)) :
    entries name ((key, json) :: members) = entries name members := by
  simp [entries, other]

theorem without_cons_same (name : String) (json : Json) (members : List (Option String × Json)) :
    without name ((some name, json) :: members) = without name members := by
  simp [without]

theorem without_cons_other {name : String} {key : Option String} (other : key ≠ some name)
    (json : Json) (members : List (Option String × Json)) :
    without name ((key, json) :: members) = (key, json) :: without name members := by
  simp [without, other]

theorem entries_append (name : String) (before after : List (Option String × Json)) :
    entries name (before ++ after) = entries name before ++ entries name after := by
  simp [entries]

theorem without_append (name : String) (before after : List (Option String × Json)) :
    without name (before ++ after) = without name before ++ without name after := by
  simp [without]

theorem entries_eq_nil_iff (name : String) (members : List (Option String × Json)) :
    entries name members = [] ↔ some name ∉ members.map Prod.fst := by
  rw [entries, List.map_eq_nil_iff, List.filter_eq_nil_iff, List.mem_map, not_exists]
  exact forall_congr' fun member => by rw [beq_iff_eq, not_and]

theorem without_eq_self {name : String} {members : List (Option String × Json)}
    (absent : some name ∉ members.map Prod.fst) : without name members = members := by
  rw [without, List.filter_eq_self]
  intro member member_mem
  rw [bne_iff_ne]
  rintro key_eq
  exact absent (key_eq ▸ List.mem_map_of_mem member_mem)

/-- A field reads a value from the values given for it: from one, or from none if it may be left
out. -/
inductive RecordField.ReadsFrom (field : RecordField σ α) (site : Site) : List Json → α → Prop
  | given {json : Json} {value : α} (read : field.codec.read site json = .ok value) :
      ReadsFrom field site [json] value
  | leftOut {value : α} (absent : field.absent = some value) : ReadsFrom field site [] value

/-- A slot is filled from the values given for its field. A slot that was filled before stays. -/
inductive RecordField.Fills (field : RecordField σ α) (site : Site) :
    Option α → List Json → Option α → Prop
  | given {json : Json} {value : α} (read : field.codec.read site json = .ok value) :
      Fills field site none [json] (some value)
  | kept (slot : Option α) : Fills field site slot [] slot

theorem RecordField.readsFrom_nil_iff {field : RecordField σ α} {site : Site} {value : α} :
    field.ReadsFrom site [] value ↔ field.absent = some value :=
  ⟨fun | .leftOut absent => absent, .leftOut⟩

theorem RecordField.readsFrom_singleton_iff {field : RecordField σ α} {site : Site} {json : Json}
    {value : α} : field.ReadsFrom site [json] value ↔ field.codec.read site json = .ok value :=
  ⟨fun | .given read => read, .given⟩

theorem RecordField.readsFrom_append_cons_iff {field : RecordField σ α} {site : Site}
    {before after : List Json} {json : Json} {value : α} :
    field.ReadsFrom site (before ++ json :: after) value ↔
      before = [] ∧ after = [] ∧ field.codec.read site json = .ok value := by
  constructor
  · intro reads
    generalize found_eq : before ++ json :: after = found at reads
    cases reads with
    | given read =>
        cases before with
        | nil =>
            obtain ⟨rfl, rfl⟩ := List.cons.inj found_eq
            exact ⟨rfl, rfl, read⟩
        | cons first before => simp at found_eq
    | leftOut absent => exact absurd found_eq (by simp)
  · rintro ⟨rfl, rfl, read⟩
    exact .given read

theorem RecordField.fills_nil_iff {field : RecordField σ α} {site : Site} {slot filled : Option α} :
    field.Fills site slot [] filled ↔ filled = slot :=
  ⟨fun | .kept _ => rfl, fun | rfl => .kept _⟩

theorem RecordField.fills_cons_iff {field : RecordField σ α} {site : Site} {slot filled : Option α}
    {json : Json} {found : List Json} :
    field.Fills site slot (json :: found) filled ↔
      slot = none ∧ found = [] ∧ ∃ value, field.codec.read site json = .ok value ∧
        filled = some value := by
  constructor
  · rintro ⟨read⟩
    exact ⟨rfl, rfl, _, read, rfl⟩
  · rintro ⟨rfl, rfl, value, read, rfl⟩
    exact .given read

theorem RecordField.fills_some_iff {field : RecordField σ α} {site : Site} {value : α}
    {filled : Option α} {found : List Json} :
    field.Fills site (some value) found filled ↔ found = [] ∧ filled = some value := by
  constructor
  · rintro ⟨⟩
    exact ⟨rfl, rfl⟩
  · rintro ⟨rfl, rfl⟩
    exact .kept _

namespace RecordFields

/-- The fields read values from the members of an object: each from the members of its name, and what
is left over is readable and has keys that denote texts. -/
def ReadsMembers (site : Site) :
    RecordFields σ types → List (Option String × Json) → Values types → Prop
  | nil, members, _ => ∀ member ∈ members, member.1.isSome = true ∧ member.2.isReadable = true
  | cons field rest, members, (value, values) =>
    field.ReadsFrom site (entries field.name members) value ∧
      rest.ReadsMembers site (without field.name members) values

/-- The fields read values from the items of an array: each from the item in its place, if there is
one, and no item is left over. -/
def ReadsItems (site : Site) : RecordFields σ types → List Json → Values types → Prop
  | nil, items, _ => items = []
  | cons field rest, items, (value, values) =>
    field.ReadsFrom site (items.take 1) value ∧ rest.ReadsItems site (items.drop 1) values

/-! ## Objects -/

theorem fillAll_nil_eq_ok_iff (site : Site) (members : List (Option String × Json)) :
    (∃ slots, (nil : RecordFields σ []).fillAll site () members = .ok slots) ↔
      ∀ member ∈ members, member.1.isSome = true ∧ member.2.isReadable = true := by
  induction members with
  | nil => exact iff_of_true ⟨(), rfl⟩ (by simp)
  | cons member members ih =>
      obtain ⟨key, json⟩ := member
      rw [List.forall_mem_cons, ← ih]
      cases key with
      | none => simp [fillAll]
      | some key => cases readable : json.isReadable <;> simp [fillAll, fill?, readable]

/-- A first field is filled from its own members, and those that follow from the others. -/
theorem fillAll_cons_eq_ok_iff (field : RecordField σ α) (rest : RecordFields σ types) (site : Site)
    (members : List (Option String × Json)) (slot filled : Option α) (slots all : Slots types) :
    (cons field rest).fillAll site (slot, slots) members = .ok (filled, all) ↔
      field.Fills site slot (entries field.name members) filled ∧
        rest.fillAll site slots (without field.name members) = .ok all := by
  induction members generalizing slot slots with
  | nil =>
      rw [entries_nil, without_nil, RecordField.fills_nil_iff]
      constructor
      · rintro ⟨⟩
        exact ⟨rfl, rfl⟩
      · rintro ⟨rfl, ⟨⟩⟩
        rfl
  | cons member members ih =>
      obtain ⟨key, json⟩ := member
      cases key with
      | none =>
          rw [entries_cons_other (by simp), without_cons_other (by simp)]
          simp [fillAll]
      | some key =>
          by_cases same : field.name = key
          · subst same
            rw [entries_cons_same, without_cons_same, RecordField.fills_cons_iff]
            cases slot with
            | some value => simp [fillAll, fill?, Bind.bind, Except.bind]
            | none =>
                cases read_eq : field.codec.read site json with
                | error fault => simp [fillAll, fill?, read_eq, Except.map, Bind.bind, Except.bind]
                | ok value =>
                    have step : (cons field rest).fillAll site (none, slots)
                        ((some field.name, json) :: members) =
                        (cons field rest).fillAll site (some value, slots) members := by
                      simp only [fillAll, fill?, if_true, Option.isSome_none, read_eq]
                      rfl
                    rw [step, ih, RecordField.fills_some_iff]
                    simp [and_assoc]
          · have other : some key ≠ some field.name := fun key_eq =>
              same (Option.some.inj key_eq).symm
            rw [entries_cons_other other, without_cons_other other]
            simp only [fillAll, fill?, same, if_false]
            cases rest.fill? slots site key json with
            | none =>
                cases json.isReadable with
                | true => exact ih slot slots
                | false => simp
            | some result =>
                cases result with
                | error fault =>
                    constructor
                    · rintro ⟨⟩
                    · rintro ⟨_, ⟨⟩⟩
                | ok filled_slots => exact ih slot filled_slots

theorem ok_pair_iff {first value : α} {others values : Values types} :
    (Except.ok (first, others) : Except Fault (Values (α :: types))) = .ok (value, values) ↔
      some first = some value ∧ (Except.ok others : Except Fault (Values types)) = .ok values := by
  constructor
  · rintro ⟨⟩
    exact ⟨rfl, rfl⟩
  · rintro ⟨⟨⟩, ⟨⟩⟩
    rfl

theorem close_cons_eq_ok_iff (field : RecordField σ α) (rest : RecordFields σ types)
    (slot : Option α) (slots : Slots types) (value : α) (values : Values types) :
    (cons field rest).close (slot, slots) = .ok (value, values) ↔
      slot.or field.absent = some value ∧ rest.close slots = .ok values := by
  cases slot with
  | some found =>
      cases rest_eq : rest.close slots with
      | error fault => simp [close, rest_eq, Bind.bind, Except.bind]
      | ok others =>
          simp only [close, rest_eq, Bind.bind, Except.bind, pure, Except.pure, Option.some_or]
          exact ok_pair_iff
  | none =>
      cases absent_eq : field.absent with
      | none => simp [close, absent_eq, Bind.bind, Except.bind]
      | some default =>
          cases rest_eq : rest.close slots with
          | error fault => simp [close, absent_eq, rest_eq, Bind.bind, Except.bind]
          | ok others =>
              simp only [close, absent_eq, rest_eq, Bind.bind, Except.bind, pure, Except.pure,
                Option.none_or]
              exact ok_pair_iff

theorem fills_none_iff (field : RecordField σ α) (site : Site) (found : List Json) (value : α) :
    (∃ slot, field.Fills site none found slot ∧ slot.or field.absent = some value) ↔
      field.ReadsFrom site found value := by
  constructor
  · rintro ⟨slot, ⟨read⟩ | ⟨_⟩, closed⟩
    · obtain rfl := Option.some.inj closed
      exact .given read
    · exact .leftOut closed
  · rintro (read | absent)
    · exact ⟨_, .given read, rfl⟩
    · exact ⟨none, .kept none, absent⟩

/-- Filling all slots and closing them reads exactly what the fields read from the members. -/
theorem fillAll_close_iff (fields : RecordFields σ types) (site : Site)
    (members : List (Option String × Json)) (values : Values types) :
    (∃ slots, fields.fillAll site fields.emptySlots members = .ok slots ∧
        fields.close slots = .ok values) ↔
      fields.ReadsMembers site members values := by
  induction fields generalizing members with
  | nil =>
      rw [ReadsMembers, ← fillAll_nil_eq_ok_iff (σ := σ) site members]
      exact exists_congr fun slots => and_iff_left rfl
  | @cons α types field rest ih =>
      obtain ⟨value, values⟩ := values
      rw [ReadsMembers, ← fills_none_iff, ← ih]
      constructor
      · rintro ⟨⟨slot, slots⟩, filled, closed⟩
        obtain ⟨field_fills, rest_filled⟩ :=
          (fillAll_cons_eq_ok_iff field rest site members none slot rest.emptySlots slots).mp filled
        obtain ⟨field_closed, rest_closed⟩ := (close_cons_eq_ok_iff ..).mp closed
        exact ⟨⟨slot, field_fills, field_closed⟩, slots, rest_filled, rest_closed⟩
      · rintro ⟨⟨slot, field_fills, field_closed⟩, slots, rest_filled, rest_closed⟩
        exact ⟨(slot, slots), (fillAll_cons_eq_ok_iff ..).mpr ⟨field_fills, rest_filled⟩,
          (close_cons_eq_ok_iff ..).mpr ⟨field_closed, rest_closed⟩⟩

/-! ## Arrays -/

theorem ok_inj_iff {first value : α} : (Except.ok first : Except Fault α) = .ok value ↔ first = value :=
  ⟨Except.ok.inj, congrArg Except.ok⟩

/-- A first field reads the first item, if there is one, and those that follow read the others. -/
theorem readItems_cons_eq_ok_iff (field : RecordField σ α) (rest : RecordFields σ types)
    (site : Site) (expected : String) (count : Nat) (items : List Json) (value : α)
    (values : Values types) (left : List Json) :
    (cons field rest).readItems site expected count items = .ok ((value, values), left) ↔
      field.ReadsFrom site (items.take 1) value ∧
        rest.readItems site expected (count + 1) (items.drop 1) = .ok (values, left) := by
  have ok_triple_iff (first : α) (found : Values types × List Json) :
      (Except.ok ((first, found.1), found.2) : Except Fault (Values (α :: types) × List Json)) =
          .ok ((value, values), left) ↔
        first = value ∧ (Except.ok found : Except Fault _) = .ok (values, left) := by
    constructor
    · rintro ⟨⟩
      exact ⟨rfl, rfl⟩
    · rintro ⟨rfl, ⟨⟩⟩
      rfl
  cases items with
  | nil =>
      rw [List.take_nil, List.drop_nil, RecordField.readsFrom_nil_iff]
      cases absent_eq : field.absent with
      | none => simp [readItems, absent_eq, Bind.bind, Except.bind]
      | some default =>
          cases rest_eq : rest.readItems site expected (count + 1) [] with
          | error fault => simp [readItems, absent_eq, rest_eq, Bind.bind, Except.bind]
          | ok found =>
              simp only [readItems, absent_eq, rest_eq, Bind.bind, Except.bind, pure, Except.pure,
                Option.some.injEq]
              exact ok_triple_iff default found
  | cons item items =>
      rw [List.take_succ_cons, List.take_zero, List.drop_succ_cons, List.drop_zero,
        RecordField.readsFrom_singleton_iff]
      cases read_eq : field.codec.read site item with
      | error fault => simp [readItems, read_eq, Bind.bind, Except.bind]
      | ok first =>
          cases rest_eq : rest.readItems site expected (count + 1) items with
          | error fault => simp [readItems, read_eq, rest_eq, Bind.bind, Except.bind]
          | ok found =>
              simp only [readItems, read_eq, rest_eq, Bind.bind, Except.bind, pure, Except.pure]
              exact (ok_triple_iff first found).trans (and_congr_left fun _ => ok_inj_iff.symm)

/-- Reading all items and leaving none over reads exactly what the fields read from the items. -/
theorem readItems_iff (fields : RecordFields σ types) (site : Site) (expected : String)
    (count : Nat) (items : List Json) (values : Values types) :
    fields.readItems site expected count items = .ok (values, []) ↔
      fields.ReadsItems site items values := by
  induction fields generalizing count items with
  | nil =>
      constructor
      · rintro ⟨⟩
        rfl
      · rintro ⟨⟩
        rfl
  | @cons α types field rest ih =>
      obtain ⟨value, values⟩ := values
      rw [readItems_cons_eq_ok_iff, ih]
      rfl

/-! ## Fields by name and by place -/

/-- The field is the first of its name. -/
inductive Finds : {types : List Type} → RecordFields σ types → {α : Type} → RecordField σ α → Prop
  | here {types : List Type} {α : Type} {field : RecordField σ α} {rest : RecordFields σ types} :
      Finds (cons field rest) field
  | there {types : List Type} {α β : Type} {first : RecordField σ β} {rest : RecordFields σ types}
      {field : RecordField σ α} (other : field.name ≠ first.name) (finds : Finds rest field) :
      Finds (cons first rest) field

/-- The field has the given number of fields before it. -/
inductive HasAt : Nat → {types : List Type} → RecordFields σ types → {α : Type} →
    RecordField σ α → Prop
  | here {types : List Type} {α : Type} {field : RecordField σ α} {rest : RecordFields σ types} :
      HasAt 0 (cons field rest) field
  | there {place : Nat} {types : List Type} {α β : Type} {first : RecordField σ β}
      {rest : RecordFields σ types} {field : RecordField σ α} (has : HasAt place rest field) :
      HasAt (place + 1) (cons first rest) field

/-- A member of the first field that comes first is read by it, and the others by the fields after. -/
theorem ReadsMembers.uncons {field : RecordField σ α} {rest : RecordFields σ types} {site : Site}
    {json : Json} {members : List (Option String × Json)} {value : α} {values : Values types}
    (reads : (cons field rest).ReadsMembers site ((some field.name, json) :: members)
      (value, values)) :
    field.codec.read site json = .ok value ∧ rest.ReadsMembers site members values := by
  obtain ⟨field_reads, rest_reads⟩ := reads
  rw [entries_cons_same, ← List.nil_append (json :: _),
    RecordField.readsFrom_append_cons_iff] at field_reads
  obtain ⟨_, none_left, read⟩ := field_reads
  rw [without_cons_same, without_eq_self ((entries_eq_nil_iff field.name members).mp none_left)]
    at rest_reads
  exact ⟨read, rest_reads⟩

/-- A member of a field is read by it, and any value that is read alike may stand in its place. -/
theorem ReadsMembers.focus {fields : RecordFields σ types} {field : RecordField σ α}
    (finds : fields.Finds field) {site : Site} {before after : List (Option String × Json)}
    {json : Json} {values : Values types}
    (reads : fields.ReadsMembers site (before ++ (some field.name, json) :: after) values) :
    ∃ value, field.codec.read site json = .ok value ∧
      ∀ other, field.codec.read site other = .ok value →
        fields.ReadsMembers site (before ++ (some field.name, other) :: after) values := by
  induction finds generalizing before after with
  | @here types α field rest =>
      obtain ⟨value, values⟩ := values
      obtain ⟨field_reads, rest_reads⟩ := reads
      rw [entries_append, entries_cons_same, RecordField.readsFrom_append_cons_iff] at field_reads
      obtain ⟨before_nil, after_nil, read⟩ := field_reads
      refine ⟨value, read, fun other other_read => ⟨?_, ?_⟩⟩
      · rw [entries_append, entries_cons_same, RecordField.readsFrom_append_cons_iff]
        exact ⟨before_nil, after_nil, other_read⟩
      · rw [without_append, without_cons_same] at rest_reads ⊢
        exact rest_reads
  | @there types α β first rest field other finds ih =>
      obtain ⟨first_value, values⟩ := values
      obtain ⟨first_reads, rest_reads⟩ := reads
      have key_ne : some field.name ≠ some first.name := fun key_eq =>
        other (Option.some.inj key_eq)
      rw [without_append, without_cons_other key_ne] at rest_reads
      obtain ⟨value, read, reread⟩ := ih rest_reads
      refine ⟨value, read, fun other other_read => ⟨?_, ?_⟩⟩
      · rw [entries_append, entries_cons_other key_ne] at first_reads ⊢
        exact first_reads
      · rw [without_append, without_cons_other key_ne]
        exact reread other other_read

/-- An item of a field is read by it, and any value that is read alike may stand in its place. -/
theorem ReadsItems.focus {place : Nat} {fields : RecordFields σ types} {field : RecordField σ α}
    (has : fields.HasAt place field) {site : Site} {before after : List Json} {json : Json}
    {values : Values types} (place_eq : before.length = place)
    (reads : fields.ReadsItems site (before ++ json :: after) values) :
    ∃ value, field.codec.read site json = .ok value ∧
      ∀ other, field.codec.read site other = .ok value →
        fields.ReadsItems site (before ++ other :: after) values := by
  induction has generalizing before with
  | @here types α field rest =>
      obtain ⟨value, values⟩ := values
      obtain rfl := List.length_eq_zero_iff.mp place_eq
      obtain ⟨field_reads, rest_reads⟩ := reads
      exact ⟨value, RecordField.readsFrom_singleton_iff.mp field_reads,
        fun other other_read => ⟨.given other_read, rest_reads⟩⟩
  | @there place types α β first rest field has ih =>
      obtain ⟨first_value, values⟩ := values
      obtain ⟨head, before, rfl⟩ := List.exists_cons_of_length_eq_add_one place_eq
      obtain ⟨first_reads, rest_reads⟩ := reads
      obtain ⟨value, read, reread⟩ := ih (Nat.succ.inj place_eq) rest_reads
      exact ⟨value, read, fun other other_read => ⟨first_reads, reread other other_read⟩⟩

/-- The fields read values from an object or an array. -/
inductive Reads (fields : RecordFields σ types) (site : Site) (values : Values types) : Json → Prop
  | object {members : List (Option String × Json)} (read : fields.ReadsMembers site members values) :
      Reads fields site values (.object members)
  | array {items : List Json} (read : fields.ReadsItems site items values) :
      Reads fields site values (.array items)

end RecordFields

/-! ## Records -/

theorem readRecord_shape {name : String} {fields : RecordFields σ types} {make : Values types → σ}
    {site : Site} {json : Json} {whole : σ}
    (read : readRecord name fields make site json = .ok whole) :
    (∃ members, json = .object members) ∨ ∃ items, json = .array items := by
  unfold readRecord at read
  dsimp only at read
  split at read
  · next members => exact .inl ⟨members, rfl⟩
  · next items => exact .inr ⟨items, rfl⟩
  · exact absurd read mismatch_ne_ok

/-- A record opens a level. -/
theorem readRecord_opens {name : String} {fields : RecordFields σ types} {make : Values types → σ}
    {site : Site} {json : Json} {whole : σ}
    (read : readRecord name fields make site json = .ok whole) :
    ∃ levels, site = ⟨site.isReadAhead, levels + 1⟩ := by
  obtain ⟨ahead, _ | levels⟩ := site
  · rcases readRecord_shape read with ⟨members, rfl⟩ | ⟨items, rfl⟩
    · cases read
    · cases read
  · exact ⟨levels, rfl⟩

theorem readRecord_object_iff {name : String} {fields : RecordFields σ types}
    {make : Values types → σ} {ahead : Bool} {levels : Nat}
    {members : List (Option String × Json)} {whole : σ} :
    readRecord name fields make ⟨ahead, levels + 1⟩ (.object members) = .ok whole ↔
      ∃ values, fields.ReadsMembers ⟨ahead, levels⟩ members values ∧ make values = whole := by
  simp only [← RecordFields.fillAll_close_iff, readRecord, Site.inside, Bind.bind, Except.bind]
  cases fields.fillAll ⟨ahead, levels⟩ fields.emptySlots members with
  | error fault => simp
  | ok slots => cases close_eq : fields.close slots <;> simp [close_eq, pure, Except.pure]

theorem readRecord_array_iff {name : String} {fields : RecordFields σ types}
    {make : Values types → σ} {ahead : Bool} {levels : Nat} {items : List Json} {whole : σ} :
    readRecord name fields make ⟨ahead, levels + 1⟩ (.array items) = .ok whole ↔
      ∃ values, fields.ReadsItems ⟨ahead, levels⟩ items values ∧ make values = whole := by
  simp only [← RecordFields.readItems_iff fields ⟨ahead, levels⟩
    ("struct " ++ name ++ " with " ++ elementCount types.length) 0 items, readRecord, Site.inside,
    Bind.bind, Except.bind]
  cases fields.readItems ⟨ahead, levels⟩
      ("struct " ++ name ++ " with " ++ elementCount types.length) 0 items with
  | error fault => simp
  | ok found =>
      obtain ⟨values, left⟩ := found
      cases left with
      | nil => simp [pure, Except.pure]
      | cons item left => simp

/-- A record is what is made of the values that its fields read inside. -/
theorem readRecord_eq_ok_iff {name : String} {fields : RecordFields σ types}
    {make : Values types → σ} {ahead : Bool} {levels : Nat} {json : Json} {whole : σ} :
    readRecord name fields make ⟨ahead, levels + 1⟩ json = .ok whole ↔
      ∃ values, fields.Reads ⟨ahead, levels⟩ values json ∧ make values = whole := by
  constructor
  · intro read
    rcases readRecord_shape read with ⟨members, rfl⟩ | ⟨items, rfl⟩
    · obtain ⟨values, reads, made⟩ := readRecord_object_iff.mp read
      exact ⟨values, .object reads, made⟩
    · obtain ⟨values, reads, made⟩ := readRecord_array_iff.mp read
      exact ⟨values, .array reads, made⟩
  · rintro ⟨values, ⟨reads⟩ | ⟨reads⟩, made⟩
    · exact readRecord_object_iff.mpr ⟨values, reads, made⟩
    · exact readRecord_array_iff.mpr ⟨values, reads, made⟩

/-! ## Declarations -/

/-- A tag is found in the values given for it, unless one was found before. -/
inductive FindsTag : Option DeclarationForm → List Json → Option DeclarationForm → Prop
  | given {json : Json} {form : DeclarationForm} (read : readTag json = .ok form) :
      FindsTag none [json] (some form)
  | kept (tag : Option DeclarationForm) : FindsTag tag [] tag

/-- What stands beside the tag: sound values under keys that denote texts. -/
def SoundBeside (levels : Nat) (members : List (Option String × Json)) : Prop :=
  ∀ member ∈ members, member.1.isSome = true ∧ member.2.isSound levels = true

theorem splitTag_eq_ok_iff (levels : Nat) (tag found : Option DeclarationForm)
    (members others : List (Option String × Json)) :
    splitTag levels tag members = .ok (found, others) ↔
      FindsTag tag (entries tagName members) found ∧ others = without tagName members ∧
        SoundBeside levels others := by
  induction members generalizing tag others with
  | nil =>
      rw [entries_nil, without_nil, splitTag]
      constructor
      · rintro ⟨⟩
        exact ⟨.kept _, rfl, by simp [SoundBeside]⟩
      · rintro ⟨⟨⟩, rfl, _⟩
        rfl
  | cons member members ih =>
      obtain ⟨key, json⟩ := member
      cases key with
      | none =>
          rw [entries_cons_other (by simp), without_cons_other (by simp), splitTag]
          constructor
          · rintro ⟨⟩
          · rintro ⟨_, rfl, sound⟩
            exact absurd (sound _ List.mem_cons_self).1 (by simp)
      | some key =>
          by_cases same : key = tagName
          · subst same
            rw [entries_cons_same, without_cons_same, splitTag, if_pos rfl]
            generalize entries tagName members = given at ih ⊢
            cases tag with
            | some form =>
                constructor
                · rintro ⟨⟩
                · rintro ⟨⟨⟩, _⟩
            | none =>
                cases read_eq : readTag json with
                | error fault =>
                    constructor
                    · rintro ⟨⟩
                    · rintro ⟨⟨read⟩, _⟩
                      rw [read_eq] at read
                      cases read
                | ok form =>
                    refine (ih (some form) others).trans (and_congr_left fun _ => ?_)
                    constructor
                    · rintro ⟨⟩
                      exact .given read_eq
                    · rintro ⟨read⟩
                      obtain rfl := Except.ok.inj (read_eq.symm.trans read)
                      exact .kept _
          · have other : some key ≠ some tagName := fun key_eq => same (Option.some.inj key_eq)
            rw [entries_cons_other other, without_cons_other other, splitTag, if_neg same]
            by_cases sound : json.isSound levels = true
            · rw [if_pos sound]
              constructor
              · intro split_eq
                cases rest_eq : splitTag levels tag members with
                | error fault => simp [rest_eq, Bind.bind, Except.bind] at split_eq
                | ok rest =>
                    obtain ⟨rest_tag, rest_others⟩ := rest
                    obtain ⟨finds, others_eq, beside⟩ := (ih tag rest_others).mp (by
                      simp only [rest_eq, Bind.bind, Except.bind, pure, Except.pure,
                        Except.ok.injEq, Prod.mk.injEq] at split_eq
                      rw [rest_eq, split_eq.1])
                    simp only [rest_eq, Bind.bind, Except.bind, pure, Except.pure, Except.ok.injEq,
                      Prod.mk.injEq] at split_eq
                    obtain ⟨_, rfl⟩ := split_eq
                    refine ⟨finds, by rw [others_eq], ?_⟩
                    rw [SoundBeside, List.forall_mem_cons]
                    exact ⟨⟨rfl, sound⟩, beside⟩
              · rintro ⟨finds, rfl, beside⟩
                rw [SoundBeside, List.forall_mem_cons] at beside
                rw [(ih tag (without tagName members)).mpr ⟨finds, rfl, beside.2⟩]
                rfl
            · rw [if_neg sound]
              constructor
              · rintro ⟨⟩
              · rintro ⟨_, rfl, beside⟩
                exact absurd (beside _ List.mem_cons_self).2 sound

/-- A declaration is read from an object if it has one tag, and the members beside it are sound and
hold the content of the tag's form. -/
theorem readDeclaration_object_iff {ahead : Bool} {levels : Nat}
    {members : List (Option String × Json)} {whole : Declaration} :
    readDeclaration ⟨ahead, levels + 1⟩ (.object members) = .ok whole ↔
      ∃ form, FindsTag none (entries tagName members) (some form) ∧
        SoundBeside levels (without tagName members) ∧
        readContent form ⟨true, levels + 1⟩ (.object (without tagName members)) = .ok whole := by
  simp only [readDeclaration, Site.inside, Bind.bind, Except.bind]
  cases split_eq : splitTag levels none members with
  | error fault =>
      constructor
      · rintro ⟨⟩
      · rintro ⟨form, finds, beside, _⟩
        rw [(splitTag_eq_ok_iff ..).mpr ⟨finds, rfl, beside⟩] at split_eq
        cases split_eq
  | ok found =>
      obtain ⟨tag, others⟩ := found
      obtain ⟨finds, rfl, beside⟩ := (splitTag_eq_ok_iff ..).mp split_eq
      cases tag with
      | none =>
          constructor
          · rintro ⟨⟩
          · rintro ⟨form, finds', _⟩
            rw [(splitTag_eq_ok_iff ..).mpr ⟨finds', rfl, beside⟩] at split_eq
            cases split_eq
      | some form =>
          constructor
          · exact fun read => ⟨form, finds, beside, read⟩
          · rintro ⟨form', finds', _, read⟩
            rw [(splitTag_eq_ok_iff ..).mpr ⟨finds', rfl, beside⟩] at split_eq
            cases split_eq
            exact read

/-- A declaration is read from an array if its first item is a tag, and the items after it are sound and
hold the content of the tag's form. -/
theorem readDeclaration_array_iff {ahead : Bool} {levels : Nat} {tag : Json} {items : List Json}
    {whole : Declaration} :
    readDeclaration ⟨ahead, levels + 1⟩ (.array (tag :: items)) = .ok whole ↔
      ∃ form, readTag tag = .ok form ∧ (∀ item ∈ items, item.isSound levels = true) ∧
        readContent form ⟨true, levels + 1⟩ (.array items) = .ok whole := by
  simp only [readDeclaration, Site.inside, Bind.bind, Except.bind, ← Json.areSound_iff]
  cases tag_eq : readTag tag with
  | error fault => simp
  | ok form =>
      cases sound_eq : Json.areSound levels items with
      | true => simp
      | false => simp

end HeaderForge.Manifest
