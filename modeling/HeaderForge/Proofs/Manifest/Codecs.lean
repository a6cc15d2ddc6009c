import HeaderForge.Manifest.Unit
import HeaderForge.Proofs.Json.Texts

/-!
# Codecs that return what they write

A codec keeps a value if it writes it as a plain JSON value and reads that back, wherever enough levels
are left for it. What is made of codecs keeps what is made of values that they keep.
-/

namespace HeaderForge.Manifest

open Binary (Single Double)

/-- The codec reads back the value from what it writes for it. -/
structure Codec.Keeps (codec : Codec α) (value : α) : Prop where
  plain : (codec.write value).IsPlain
  read : ∀ site : Site, (codec.write value).depth ≤ site.levels →
    codec.read site (codec.write value) = .ok value

/-- A plain document that is not too deep is read back whole. -/
theorem Codec.Keeps.parse_print {codec : Codec α} {value : α} (keeps : codec.Keeps value)
    (fits : (codec.write value).depth ≤ maxLevels) :
    codec.parse (codec.print value) = .ok value := by
  rw [Codec.parse, Codec.print, keeps.plain.readsBack.parse_print, Codec.readDocument,
    keeps.read ⟨false, maxLevels⟩ fits]
  rfl

/-! ## Single values -/

theorem keeps_text (content : String) : text.Keeps content :=
  ⟨.text content, fun _ _ => rfl⟩

theorem keeps_flag (value : Bool) : flag.Keeps value :=
  ⟨.bool value, fun _ _ => rfl⟩

/-- Integers are kept where their codec converts between them and a part of those of 64 bits. -/
theorem keeps_integer {α : Type} {low high : Int} {typeName : String} (ofInt : Int → α)
    (toInt : α → Int) {value : α} (from_low : low ≤ toInt value) (to_high : toInt value ≤ high)
    (low_fits : -2 ^ 63 ≤ low) (high_fits : high < 2 ^ 64) (same : ofInt (toInt value) = value) :
    Codec.Keeps
      ⟨fun _ json => (readInteger low high typeName json).map ofInt,
        fun value => .integer (toInt value)⟩ value := by
  have quantity_eq : (Json.Number.ofInt (toInt value)).quantity = .integer (toInt value) :=
    Json.quantity_ofInt (by omega) (by omega)
  refine ⟨.number (Json.Number.isPlain_ofInt _) (by rw [quantity_eq]; simp), ?_⟩
  intro site fits
  simp only [readInteger, Json.integer, quantity_eq, from_low, to_high, and_self, if_true]
  exact congrArg Except.ok same

theorem keeps_int8 (value : Int8) : int8.Keeps value :=
  keeps_integer Int8.ofInt Int8.toInt value.minValue_le_toInt value.toInt_le (by decide) (by decide)
    (Int8.ofInt_toInt value)

theorem keeps_int16 (value : Int16) : int16.Keeps value :=
  keeps_integer Int16.ofInt Int16.toInt value.minValue_le_toInt value.toInt_le (by decide) (by decide)
    (Int16.ofInt_toInt value)

theorem keeps_int32 (value : Int32) : int32.Keeps value :=
  keeps_integer Int32.ofInt Int32.toInt value.minValue_le_toInt value.toInt_le (by decide) (by decide)
    (Int32.ofInt_toInt value)

theorem keeps_int64 (value : Int64) : int64.Keeps value :=
  keeps_integer Int64.ofInt Int64.toInt value.minValue_le_toInt value.toInt_le (by decide) (by decide)
    (Int64.ofInt_toInt value)

theorem keeps_unsigned16 (value : UInt16) : unsigned16.Keeps value := by
  have value_lt : value.toNat < 65536 := value.toNat_lt
  have size_eq : ((UInt16.size - 1 : Nat) : Int) = 65535 := rfl
  refine keeps_integer (fun value => UInt16.ofNat value.toNat)
    (fun value : UInt16 => (value.toNat : Int)) ?_ ?_ (by decide) (by decide) ?_
  · exact Int.natCast_nonneg value.toNat
  · show (value.toNat : Int) ≤ ((UInt16.size - 1 : Nat) : Int)
    omega
  · simp

theorem read_of_readDocument {codec : Codec α} {document : Json.Document} {value : α}
    (read : codec.readDocument document = .ok value) :
    codec.read ⟨false, maxLevels⟩ document.value = .ok value := by
  unfold Codec.readDocument at read
  cases found_eq : codec.read ⟨false, maxLevels⟩ document.value with
  | error fault =>
      rw [found_eq] at read
      cases read
  | ok found =>
      rw [found_eq] at read
      cases complete_eq : document.isComplete with
      | true => simpa [complete_eq] using read
      | false => simp [complete_eq, Bind.bind, Except.bind] at read

/-- A value written as a row of digits is kept if it is read back from their text. -/
theorem keeps_of_digits {codec : Codec α} {value : α} (number? : Option Json.Number)
    (write_eq : codec.write value = (number?.map .number).getD .null)
    (digits : ∀ number, number? = some number → Json.HasDigits number.numeral)
    (same_everywhere : ∀ site site' json, codec.read site json = codec.read site' json)
    (null_unread : ∀ site found, codec.read site .null ≠ .ok found)
    (unreadable_unread : ∀ site found, codec.read site .unreadable ≠ .ok found)
    (tooLarge_unread : ∀ site number found, number.quantity = .tooLarge →
      codec.read site (.number number) ≠ .ok found)
    (read : codec.parse (codec.print value) = .ok value) : codec.Keeps value := by
  rw [Codec.parse, Codec.print] at read
  have value_read := read_of_readDocument read
  cases number_eq : number? with
  | none =>
      rw [number_eq, Option.map_none, Option.getD_none] at write_eq
      rw [write_eq, Json.IsPlain.null.readsBack.parse_print] at value_read
      exact absurd value_read (null_unread _ _)
  | some number =>
      rw [number_eq, Option.map_some, Option.getD_some] at write_eq
      rw [write_eq] at value_read
      have has_digits := digits number number_eq
      have plain : number.IsPlain := by
        apply Json.isPlain_of_parseNumber? has_digits
        intro unread
        rw [Json.parse_print_of_unread has_digits unread] at value_read
        exact unreadable_unread _ _ value_read
      rw [(Json.readsBack_number plain).parse_print] at value_read
      have denotes : number.quantity ≠ .tooLarge :=
        fun tooLarge => tooLarge_unread _ _ _ tooLarge value_read
      refine ⟨by rw [write_eq]; exact .number plain denotes, ?_⟩
      intro site fits
      rw [write_eq, same_everywhere site ⟨false, maxLevels⟩]
      exact value_read

theorem keeps_single {value : Single} (read : single.parse (single.print value) = .ok value) :
    single.Keeps value := by
  refine keeps_of_digits (Json.Number.ofSingle? value) rfl ?_ (fun _ _ _ => rfl) ?_ ?_ ?_
    read
  · exact fun number written => Json.hasDigits_ofDatum? written
  · simp [single, mismatch, Shape.of?]
  · simp [single, mismatch, Shape.of?]
  · intro site number found tooLarge
    simp [single, tooLarge]

theorem keeps_double {value : Double} (read : double.parse (double.print value) = .ok value) :
    double.Keeps value := by
  refine keeps_of_digits (Json.Number.ofDouble? value) rfl ?_ (fun _ _ _ => rfl) ?_ ?_ ?_
    read
  · exact fun number written => Json.hasDigits_ofDatum? written
  · simp [double, mismatch, Shape.of?]
  · simp [double, mismatch, Shape.of?]
  · intro site number found tooLarge
    simp [double, tooLarge]

/-! ## Values that may be left open, and lists -/

theorem nullable_read {codec : Codec α} {site : Site} {json : Json} {value : α}
    (not_null : json ≠ .null) (read : codec.read site json = .ok value) :
    (nullable codec).read site json = .ok (some value) := by
  unfold nullable
  dsimp only
  split
  · next null_eq => exact absurd rfl not_null
  · rw [read]
    rfl

/-- A codec that never writes null keeps what may be left open. -/
theorem keeps_nullable {codec : Codec α} {value : Option α}
    (keeps : ∀ given, value = some given → codec.Keeps given)
    (not_null : ∀ given, codec.write given ≠ .null) : (nullable codec).Keeps value := by
  cases value with
  | none => exact ⟨.null, fun _ _ => rfl⟩
  | some given =>
      obtain ⟨plain, read⟩ := keeps given rfl
      exact ⟨plain, fun site fits => nullable_read (not_null given) (read site fits)⟩

theorem inside_of_pos {site : Site} {levels : Nat} (levels_eq : site.levels = levels + 1) :
    site.inside = .ok ⟨site.isReadAhead, levels⟩ := by
  obtain ⟨isReadAhead, _⟩ := site
  subst levels_eq
  rfl

theorem mapM_read_of_forall {codec : Codec α} {site : Site} {values : List α}
    (read : ∀ value ∈ values, codec.read site (codec.write value) = .ok value) :
    (values.map codec.write).mapM (codec.read site) = .ok values := by
  induction values with
  | nil => rfl
  | cons value rest ih =>
      have rest_read := ih fun other other_mem => read other (List.mem_cons_of_mem _ other_mem)
      rw [List.map_cons, List.mapM_cons, read value List.mem_cons_self, rest_read]
      rfl

theorem keeps_list {codec : Codec α} {values : List α} (keeps : ∀ value ∈ values, codec.Keeps value) :
    (list codec).Keeps values := by
  constructor
  · refine .array ?_
    intro item item_mem
    obtain ⟨value, value_mem, rfl⟩ := List.mem_map.mp item_mem
    exact (keeps value value_mem).plain
  · intro site fits
    have write_eq : (list codec).write values = .array (values.map codec.write) := rfl
    rw [write_eq, Json.depth] at fits
    have levels_eq : site.levels = (site.levels - 1) + 1 := by omega
    have items_fit := (Json.itemsDepth_le_iff (values.map codec.write) (site.levels - 1)).mp (by omega)
    rw [write_eq]
    unfold list
    simp only [inside_of_pos levels_eq]
    apply mapM_read_of_forall
    intro value value_mem
    exact (keeps value value_mem).read _ (items_fit _ (List.mem_map_of_mem value_mem))

/-! ## Choices -/

theorem readChoice_plain {variants : List (String × Variant α)} {name : String} {value : α}
    (found : variants.lookup name = some (.plain value)) (site : Site) :
    readChoice variants site (.text name) = .ok value := by
  simp only [readChoice, Json.text, findVariant, found]
  rfl

theorem readChoice_carrying {variants : List (String × Variant α)} {name : String}
    {read : Reader α} {json : Json} {value : α} {site : Site} {levels : Nat}
    (found : variants.lookup name = some (.carrying read))
    (levels_eq : site.levels = levels + 1)
    (carried_read : read ⟨site.isReadAhead, levels⟩ json = .ok value) :
    readChoice variants site (tagged name json) = .ok value := by
  simp only [readChoice, tagged, Json.ofMembers, List.map_cons, List.map_nil, findVariant, found,
    inside_of_pos levels_eq]
  cases ahead_eq : site.isReadAhead with
  | true =>
      rw [ahead_eq] at carried_read
      exact carried_read
  | false =>
      rw [ahead_eq] at carried_read
      simp [Bind.bind, Except.bind, Variant.readCarried, carried_read, pure, Except.pure]

theorem keeps_names {variants : List (String × α)} {nameOf : α → String} {value : α}
    (found : (variants.map fun (name, value) => (name, Variant.plain value)).lookup (nameOf value) =
      some (.plain value)) :
    (names variants nameOf).Keeps value :=
  ⟨.text (nameOf value), fun site _ => readChoice_plain found site⟩

theorem depth_ofMembers_le_iff (members : List (String × Json)) (levels : Nat) :
    (Json.ofMembers members).depth ≤ levels + 1 ↔
      ∀ member ∈ members, member.2.depth ≤ levels := by
  rw [Json.ofMembers, Json.depth, Nat.add_le_add_iff_right]
  exact Json.membersDepth_keyed_le_iff members levels

theorem depth_ofMembers_pos (members : List (String × Json)) :
    0 < (Json.ofMembers members).depth := by
  rw [Json.ofMembers, Json.depth]
  exact Nat.succ_pos _

/-- A site with room for an object has a level to open, inside which there is room for its values. -/
theorem exists_levels_of_fits {members : List (String × Json)} {site : Site}
    (fits : (Json.ofMembers members).depth ≤ site.levels) :
    ∃ levels, site.levels = levels + 1 ∧ ∀ member ∈ members, member.2.depth ≤ levels := by
  have positive := depth_ofMembers_pos members
  refine ⟨site.levels - 1, by omega, ?_⟩
  apply (depth_ofMembers_le_iff members (site.levels - 1)).mp
  omega

theorem keeps_carried {inner : Codec α} {wrap : α → β} {variants : List (String × Variant β)}
    {write : β → Json} {name : String} {value : α}
    (found : variants.lookup name = some (carried inner wrap))
    (write_eq : write (wrap value) = tagged name (inner.write value)) (keeps : inner.Keeps value) :
    Codec.Keeps ⟨readChoice variants, write⟩ (wrap value) := by
  constructor
  · change (write (wrap value)).IsPlain
    rw [write_eq]
    exact .ofMembers (by simpa using keeps.plain)
  · intro site fits
    change (write (wrap value)).depth ≤ site.levels at fits
    rw [write_eq] at fits
    obtain ⟨levels, levels_eq, values_fit⟩ := exists_levels_of_fits fits
    change readChoice variants site (write (wrap value)) = _
    rw [write_eq]
    apply readChoice_carrying found levels_eq
    rw [keeps.read ⟨site.isReadAhead, levels⟩ (values_fit _ List.mem_cons_self)]
    rfl

/-! ## Records -/

namespace RecordFields

/-- The names of the fields. -/
def names : RecordFields σ types → List String
  | nil => []
  | cons field rest => field.name :: rest.names

/-- The values of the fields in a record. -/
def values (whole : σ) : RecordFields σ types → Values types
  | nil => ()
  | cons field rest => (field.get whole, rest.values whole)

/-- The slots of the fields, all filled from a record. -/
def filled (whole : σ) : RecordFields σ types → Slots types
  | nil => ()
  | cons field rest => (some (field.get whole), rest.filled whole)

/-- The codecs of the fields keep the values that the fields have in a record. -/
inductive Keep (whole : σ) : {types : List Type} → RecordFields σ types → Prop where
  | nil : Keep whole .nil
  | cons {α : Type} {types : List Type} {field : RecordField σ α} {rest : RecordFields σ types}
      (field_keeps : field.codec.Keeps (field.get whole)) (rest_keep : Keep whole rest) :
      Keep whole (.cons field rest)

/-- The codecs of the fields read back the values that they write for a record, at a place inside. -/
inductive ReadAt (site : Site) (whole : σ) : {types : List Type} → RecordFields σ types → Prop where
  | nil : ReadAt site whole .nil
  | cons {α : Type} {types : List Type} {field : RecordField σ α} {rest : RecordFields σ types}
      (field_read : field.codec.read site (field.codec.write (field.get whole)) =
        .ok (field.get whole))
      (rest_read : ReadAt site whole rest) : ReadAt site whole (.cons field rest)

theorem members_names (whole : σ) (fields : RecordFields σ types) :
    (fields.members whole).map Prod.fst = fields.names := by
  induction fields with
  | nil => rfl
  | cons field rest ih => rw [members, List.map_cons, ih, names]

theorem Keep.plain {whole : σ} {fields : RecordFields σ types} (keep : fields.Keep whole) :
    ∀ member ∈ fields.members whole, member.2.IsPlain := by
  induction keep with
  | nil => simp [members]
  | cons field_keeps rest_keep ih =>
      rw [members, List.forall_mem_cons]
      exact ⟨field_keeps.plain, ih⟩

theorem Keep.readAt {whole : σ} {fields : RecordFields σ types} (keep : fields.Keep whole)
    {site : Site} (fits : ∀ member ∈ fields.members whole, member.2.depth ≤ site.levels) :
    fields.ReadAt site whole := by
  induction keep with
  | nil => exact .nil
  | cons field_keeps rest_keep ih =>
      rw [members, List.forall_mem_cons] at fits
      exact .cons (field_keeps.read site fits.1) (ih fits.2)

/-- Members of other names leave the slot of a field alone. -/
theorem fillAll_cons_of_ne {field : RecordField σ α} {rest : RecordFields σ types} {site : Site}
    {members : List (String × Json)} (others : field.name ∉ members.map Prod.fst)
    (slot : Option α) (slots : Slots types) :
    (cons field rest).fillAll site (slot, slots) (Json.keyed members) =
      (rest.fillAll site slots (Json.keyed members)).map fun slots => (slot, slots) := by
  induction members generalizing slots with
  | nil => rfl
  | cons member members ih =>
      obtain ⟨key, json⟩ := member
      rw [List.map_cons, List.mem_cons, not_or] at others
      obtain ⟨key_other, others⟩ := others
      have rest_filled := ih others
      simp only [Json.keyed, List.map_cons, fillAll, fill?, key_other, if_false] at rest_filled ⊢
      cases fill_eq : rest.fill? slots site key json with
      | none =>
          cases json.isReadable with
          | true => exact rest_filled slots
          | false => rfl
      | some result =>
          cases result with
          | error fault => rfl
          | ok slots => exact rest_filled slots

/-- The members of a record fill the slots of its fields. -/
theorem fillAll_members {fields : RecordFields σ types} {site : Site} {whole : σ}
    (distinct : fields.names.Nodup) (read : fields.ReadAt site whole) :
    fields.fillAll site fields.emptySlots (Json.keyed (fields.members whole)) =
      .ok (fields.filled whole) := by
  induction read with
  | nil => rfl
  | @cons α types field rest field_read rest_read ih =>
      rw [names, List.nodup_cons] at distinct
      have rest_filled := ih distinct.2
      have others : field.name ∉ (rest.members whole).map Prod.fst := by
        rw [members_names]
        exact distinct.1
      have keyed_eq : Json.keyed ((cons field rest).members whole) =
          (some field.name, field.codec.write (field.get whole)) ::
            Json.keyed (rest.members whole) := rfl
      have field_filled :
          (cons field rest).fill? (cons field rest).emptySlots site field.name
              (field.codec.write (field.get whole)) =
            some (.ok (some (field.get whole), rest.emptySlots)) := by
        simp only [emptySlots, fill?, if_true, field_read]
        rfl
      calc
        (cons field rest).fillAll site (cons field rest).emptySlots
            (Json.keyed ((cons field rest).members whole)) =
            (cons field rest).fillAll site (some (field.get whole), rest.emptySlots)
              (Json.keyed (rest.members whole)) := by
          rw [keyed_eq, fillAll, field_filled]
          rfl
        _ = .ok ((cons field rest).filled whole) := by
          rw [fillAll_cons_of_ne others, rest_filled]
          rfl

theorem close_filled (fields : RecordFields σ types) (whole : σ) :
    fields.close (fields.filled whole) = .ok (fields.values whole) := by
  induction fields with
  | nil => rfl
  | cons field rest ih =>
      rw [filled, close, ih]
      rfl

end RecordFields

theorem readRecord_members (name : String) {fields : RecordFields σ types}
    {make : Values types → σ} {site : Site} {levels : Nat} {whole : σ}
    (distinct : fields.names.Nodup) (made : make (fields.values whole) = whole)
    (levels_eq : site.levels = levels + 1)
    (read : fields.ReadAt ⟨site.isReadAhead, levels⟩ whole) :
    readRecord name fields make site (.ofMembers (fields.members whole)) = .ok whole := by
  have filled_eq := RecordFields.fillAll_members distinct read
  have object_eq : Json.ofMembers (fields.members whole) =
      .object (Json.keyed (fields.members whole)) := rfl
  simp only [object_eq, readRecord, inside_of_pos levels_eq, Bind.bind, Except.bind, filled_eq,
    RecordFields.close_filled, made, pure, Except.pure]

theorem keeps_record {name : String} {fields : RecordFields σ types} {make : Values types → σ}
    {whole : σ} (distinct : fields.names.Nodup) (made : make (fields.values whole) = whole)
    (keep : fields.Keep whole) : (record name fields make).Keeps whole := by
  constructor
  · exact .ofMembers keep.plain
  · intro site fits
    obtain ⟨levels, levels_eq, values_fit⟩ := exists_levels_of_fits fits
    exact readRecord_members name distinct made levels_eq (keep.readAt values_fit)

end HeaderForge.Manifest
