import HeaderForge.Proofs.Manifest.Records
import HeaderForge.Proofs.Manifest.Units

/-!
# Room for what is written

What is written for a value that was read is never deeper than the levels that were left where it was
read. Only the value of a field that was left out could be; but wherever that value opens a level,
another field of the record must be given that opens one as well.
-/

namespace HeaderForge.Manifest

/-- Where a value is read, there are levels enough to write it. -/
def Codec.Fits (codec : Codec α) : Prop :=
  ∀ site json value, codec.read site json = .ok value → (codec.write value).depth ≤ site.levels

/-- A value is only read where a level may be opened. -/
def Codec.Opens (codec : Codec α) : Prop :=
  ∀ site json value, codec.read site json = .ok value → 0 < site.levels

/-! ## Single values and lists -/

theorem fits_of_flat {codec : Codec α} (flat : ∀ value, (codec.write value).depth = 0) :
    codec.Fits := fun site _ value _ => (flat value).trans_le (Nat.zero_le site.levels)

theorem fits_text : text.Fits := fits_of_flat fun _ => rfl

theorem fits_flag : flag.Fits := fits_of_flat fun _ => rfl

theorem fits_names (variants : List (String × α)) (nameOf : α → String) :
    (names variants nameOf).Fits := fits_of_flat fun _ => rfl

theorem fits_primitive : primitive.Fits := fits_names _ _

theorem depth_numberOrNull (number? : Option Json.Number) :
    ((number?.map Json.number).getD .null).depth = 0 := by
  cases number? with
  | none => rfl
  | some number => rfl

theorem fits_nullable {codec : Codec α} (fits : codec.Fits) : (nullable codec).Fits := by
  intro site json value read
  cases value with
  | none => exact Nat.zero_le site.levels
  | some given =>
      unfold nullable at read
      dsimp only at read
      split at read
      · cases read
      · obtain ⟨inner, inner_read, wrapped⟩ := map_eq_ok_iff.mp read
        obtain rfl := Option.some.inj wrapped
        exact fits site json inner inner_read

theorem exists_read_of_mapM {read : Json → Except Fault α} {items : List Json} {values : List α}
    (run : items.mapM read = .ok values) : ∀ value ∈ values, ∃ item, read item = .ok value := by
  induction items generalizing values with
  | nil =>
      obtain rfl : [] = values := Except.ok.inj run
      exact fun value value_mem => absurd value_mem List.not_mem_nil
  | cons item items ih =>
      rw [List.mapM_cons] at run
      obtain ⟨first, first_read, later_run⟩ := ok_of_bind_eq_ok run
      obtain ⟨later, later_read, made⟩ := ok_of_bind_eq_ok later_run
      obtain rfl : first :: later = values := Except.ok.inj made
      exact List.forall_mem_cons.mpr ⟨⟨item, first_read⟩, ih later_read⟩

theorem fits_list {codec : Codec α} (fits : codec.Fits) : (list codec).Fits := by
  intro site json values read
  unfold list at read
  dsimp only at read
  split at read
  · next items =>
      obtain ⟨inside, inside_eq, items_read⟩ := ok_of_bind_eq_ok read
      obtain ⟨ahead, _ | levels⟩ := site
      · cases inside_eq
      · obtain rfl := Except.ok.inj inside_eq
        have items_fit : Json.itemsDepth (values.map codec.write) ≤ levels := by
          rw [Json.itemsDepth_le_iff, List.forall_mem_map]
          intro value value_mem
          obtain ⟨item, item_read⟩ := exists_read_of_mapM items_read value value_mem
          exact fits _ item value item_read
        exact Nat.succ_le_succ items_fit
  · exact absurd read mismatch_ne_ok

/-! ## Choices -/

/-- What the variant is written as opens no level, or no more than one around what it carries. -/
def Variant.Fits (write : α → Json) : Variant α → Prop
  | plain value => (write value).depth = 0
  | carrying read => ∀ site json value, read site json = .ok value →
      (write value).depth ≤ site.levels + 1

theorem mem_of_lookup {variants : List (String × β)} {name : String} {found : β}
    (lookup_eq : variants.lookup name = some found) : (name, found) ∈ variants := by
  induction variants with
  | nil => cases lookup_eq
  | cons entry variants ih =>
      obtain ⟨key, variant⟩ := entry
      rw [List.lookup_cons] at lookup_eq
      split at lookup_eq
      · next same =>
          rw [eq_of_beq same, Option.some.inj lookup_eq]
          exact List.mem_cons_self
      · exact List.mem_cons_of_mem _ (ih lookup_eq)

theorem findVariant_eq_ok_iff {variants : List (String × β)} {name : String} {found : β} :
    findVariant variants name = .ok found ↔ variants.lookup name = some found := by
  unfold findVariant
  cases variants.lookup name with
  | none => exact iff_of_false nofun nofun
  | some variant =>
      constructor
      · rintro ⟨⟩
        rfl
      · rintro ⟨⟩
        rfl

/-- A choice is read from the bare name of a variant, or inside a level from what a variant carries. -/
theorem readChoice_cases {variants : List (String × Variant α)} {site : Site} {json : Json}
    {value : α} (read : readChoice variants site json = .ok value) :
    (∃ name, variants.lookup name = some (.plain value)) ∨
      ∃ levels name variant carried, site.levels = levels + 1 ∧
        variants.lookup name = some variant ∧
        variant.readCarried ⟨site.isReadAhead, levels⟩ carried = .ok value := by
  obtain ⟨ahead, outer⟩ := site
  have carried_cases {name : String} {json : Json} (later : α → Except Fault α)
      (same : ∀ found, later found = .ok value → found = value)
      (run : (do
        let site ← Site.inside ⟨ahead, outer⟩
        later (← (← findVariant variants name).readCarried site json)) = .ok value) :
      ∃ levels name variant carried, outer = levels + 1 ∧ variants.lookup name = some variant ∧
        variant.readCarried ⟨ahead, levels⟩ carried = .ok value := by
    obtain ⟨inside, inside_eq, run⟩ := ok_of_bind_eq_ok run
    obtain ⟨variant, find_eq, run⟩ := ok_of_bind_eq_ok run
    obtain ⟨found, carried_read, made⟩ := ok_of_bind_eq_ok run
    obtain rfl := same found made
    cases outer with
    | zero => cases inside_eq
    | succ levels =>
        obtain rfl := Except.ok.inj inside_eq
        exact ⟨levels, name, variant, json, rfl, findVariant_eq_ok_iff.mp find_eq, carried_read⟩
  unfold readChoice at read
  dsimp only at read
  split at read
  · next name =>
      obtain ⟨variant, find_eq, bare_read⟩ := ok_of_bind_eq_ok read
      cases variant with
      | carrying reader => cases bare_read
      | plain only =>
          obtain rfl := Except.ok.inj bare_read
          exact .inl ⟨name, findVariant_eq_ok_iff.mp find_eq⟩
  · next members =>
      right
      split at read
      · split at read
        · next name json =>
            exact carried_cases pure (fun found => Except.ok.inj) (by simpa using read)
        · cases read
      · split at read
        · next name json rest =>
            refine carried_cases _ (fun found made => ?_) read
            split at made
            · exact Except.ok.inj made
            · cases made
        · cases read
  · split at read
    · exact absurd read mismatch_ne_ok
    · cases read

theorem fits_choice {variants : List (String × Variant α)} {write : α → Json}
    (fits : ∀ entry ∈ variants, entry.2.Fits write) : Codec.Fits ⟨readChoice variants, write⟩ := by
  intro site json value read
  rcases readChoice_cases read with
    ⟨name, found⟩ | ⟨levels, name, variant, carried, levels_eq, found, carried_read⟩
  · have flat : (write value).depth = 0 := fits _ (mem_of_lookup found)
    exact flat.trans_le (Nat.zero_le site.levels)
  · have variant_fits : variant.Fits write := fits _ (mem_of_lookup found)
    cases variant with
    | plain only =>
        obtain ⟨nothing, _, rfl⟩ := map_eq_ok_iff.mp carried_read
        have flat : (write only).depth = 0 := variant_fits
        exact flat.trans_le (Nat.zero_le site.levels)
    | carrying reader =>
        rw [levels_eq]
        exact variant_fits _ carried value carried_read

theorem depth_tagged (name : String) (json : Json) : (tagged name json).depth = json.depth + 1 := by
  rw [tagged, Json.ofMembers, List.map_cons, List.map_nil, Json.depth, Json.membersDepth,
    Json.membersDepth, Nat.max_zero]

theorem fits_carried (inner : Codec α) {wrap : α → β} {write : β → Json} {name : String}
    (fits : inner.Fits) (write_eq : ∀ value, write (wrap value) = tagged name (inner.write value)) :
    (carried inner wrap).Fits write := by
  intro site json whole read
  obtain ⟨value, value_read, rfl⟩ := map_eq_ok_iff.mp read
  rw [write_eq, depth_tagged]
  exact Nat.succ_le_succ (fits site json value value_read)

/-! ## Records -/

namespace RecordFields

/-- Each field reads its value from something, or is left out. -/
def ReadsEach (site : Site) : RecordFields σ types → Values types → Prop
  | nil, _ => True
  | cons field rest, (value, values) =>
    (∃ found, field.ReadsFrom site found value) ∧ rest.ReadsEach site values

theorem ReadsMembers.each {fields : RecordFields σ types} {site : Site}
    {members : List (Option String × Json)} {values : Values types}
    (reads : fields.ReadsMembers site members values) : fields.ReadsEach site values := by
  induction fields generalizing members with
  | nil => trivial
  | cons field rest ih => exact ⟨⟨_, reads.1⟩, ih reads.2⟩

theorem ReadsItems.each {fields : RecordFields σ types} {site : Site} {items : List Json}
    {values : Values types} (reads : fields.ReadsItems site items values) :
    fields.ReadsEach site values := by
  induction fields generalizing items with
  | nil => trivial
  | cons field rest ih => exact ⟨⟨_, reads.1⟩, ih reads.2⟩

theorem Reads.each {fields : RecordFields σ types} {site : Site} {json : Json}
    {values : Values types} (reads : fields.Reads site values json) :
    fields.ReadsEach site values := by
  cases reads with
  | object read => exact read.each
  | array read => exact read.each

/-- The codecs of all fields find room where they read. -/
inductive Fit : {types : List Type} → RecordFields σ types → Prop
  | nil : Fit .nil
  | cons {α : Type} {types : List Type} {field : RecordField σ α} {rest : RecordFields σ types}
      (field_fits : field.codec.Fits) (rest_fit : Fit rest) : Fit (.cons field rest)

/-- The depth of the deepest value that a field has when it is left out. -/
def absentDepth : RecordFields σ types → Nat
  | nil => 0
  | cons field rest =>
    max ((field.absent.map fun value => (field.codec.write value).depth).getD 0) rest.absentDepth

/-- A field must be given that opens a level. -/
inductive Opens : {types : List Type} → RecordFields σ types → Prop
  | here {α : Type} {types : List Type} {field : RecordField σ α} {rest : RecordFields σ types}
      (needed : field.absent = none) (opens : field.codec.Opens) : Opens (.cons field rest)
  | there {α : Type} {types : List Type} {field : RecordField σ α} {rest : RecordFields σ types}
      (opens : Opens rest) : Opens (.cons field rest)

/-- Where the fields are read, there is room for the values that they have when they are left out. -/
def LeaveRoom (fields : RecordFields σ types) : Prop :=
  ∀ site values, fields.ReadsEach site values → fields.absentDepth ≤ site.levels

theorem leaveRoom_of_flat {fields : RecordFields σ types} (flat : fields.absentDepth = 0) :
    fields.LeaveRoom := fun site _ _ => flat.trans_le (Nat.zero_le site.levels)

theorem Opens.levels_pos {fields : RecordFields σ types} (opens : fields.Opens) {site : Site}
    {values : Values types} (reads : fields.ReadsEach site values) : 0 < site.levels := by
  induction opens with
  | @here α types field rest needed opens =>
      obtain ⟨⟨found, field_reads⟩, _⟩ := reads
      cases field_reads with
      | given read => exact opens site _ _ read
      | leftOut absent => exact absurd (needed.symm.trans absent) (by simp)
  | there _ ih => exact ih reads.2

theorem leaveRoom_of_opens {fields : RecordFields σ types} (opens : fields.Opens)
    (shallow : fields.absentDepth ≤ 1) : fields.LeaveRoom :=
  fun _ _ reads => shallow.trans (opens.levels_pos reads)

theorem Fit.members {fields : RecordFields σ types} (fit : fields.Fit) {whole : σ} (site : Site)
    (room : fields.absentDepth ≤ site.levels) (reads : fields.ReadsEach site (fields.values whole)) :
    ∀ member ∈ fields.members whole, member.2.depth ≤ site.levels := by
  induction fit with
  | nil => exact fun member member_mem => absurd member_mem List.not_mem_nil
  | @cons α types field rest field_fits rest_fit ih =>
      obtain ⟨⟨found, field_reads⟩, rest_reads⟩ := reads
      obtain ⟨field_room, rest_room⟩ := max_le_iff.mp room
      refine List.forall_mem_cons.mpr ⟨?_, ih rest_room rest_reads⟩
      cases field_reads with
      | given read => exact field_fits site _ _ read
      | leftOut absent =>
          rw [absent] at field_room
          exact field_room

end RecordFields

/-- A record is written in the room where it is read, if the values of fields left out are. -/
theorem readRecord_fits {name : String} {fields : RecordFields σ types} {make : Values types → σ}
    (made : ∀ values, fields.values (make values) = values) (fit : fields.Fit) {ahead : Bool}
    {levels : Nat} {json : Json} {whole : σ}
    (room : ∀ values, fields.ReadsEach ⟨ahead, levels⟩ values → fields.absentDepth ≤ levels)
    (read : readRecord name fields make ⟨ahead, levels + 1⟩ json = .ok whole) :
    (Json.ofMembers (fields.members whole)).depth ≤ levels + 1 := by
  obtain ⟨values, reads, rfl⟩ := readRecord_eq_ok_iff.mp read
  rw [depth_ofMembers_le_iff]
  refine fit.members ⟨ahead, levels⟩ (room values reads.each) ?_
  rw [made]
  exact reads.each

theorem fits_record {name : String} {fields : RecordFields σ types} {make : Values types → σ}
    (made : ∀ values, fields.values (make values) = values) (room : fields.LeaveRoom)
    (fit : fields.Fit) : (record name fields make).Fits := by
  intro site json whole read
  obtain ⟨levels, site_eq⟩ := readRecord_opens read
  rw [site_eq] at read ⊢
  exact readRecord_fits made fit (room _) read

theorem opens_record (name : String) (fields : RecordFields σ types) (make : Values types → σ) :
    (record name fields make).Opens := by
  intro site json whole read
  obtain ⟨levels, site_eq⟩ := readRecord_opens read
  rw [site_eq]
  exact Nat.succ_pos levels

/-! ## Types -/

theorem fits_referent {inner : Reader TypeRef} (fits : Codec.Fits ⟨inner, writeTypeRef⟩) :
    Codec.Fits ⟨readChoice (referentVariants inner), writeReferent⟩ := by
  apply fits_choice
  simp only [referentVariants, List.forall_mem_cons]
  have write_eq (bound : Option TypeRef) : writeReferent (.typeVariable bound) =
      tagged "type_variable" ((nullable ⟨inner, writeTypeRef⟩).write bound) := by
    cases bound with
    | none => rfl
    | some bound => rfl
  exact ⟨fits_carried primitive fits_primitive fun _ => rfl, rfl, rfl, rfl, rfl,
    fits_carried ⟨inner, writeTypeRef⟩ fits fun _ => rfl,
    fits_carried _ (fits_nullable fits) write_eq, by simp⟩

theorem values_named {inner : Reader TypeRef} (values : Values [String, String, Referent]) :
    (typeRefFields inner).values (values.2.2.1.named values.1 values.2.1) = values := by
  obtain ⟨package, name, kind, ⟨⟩⟩ := values
  cases kind with
  | primitive type => rfl
  | declared sort => rfl
  | array element => rfl
  | typeVariable bound =>
      cases bound with
      | none => rfl
      | some bound => rfl

theorem fits_readTypeRef (depth : Nat) : Codec.Fits ⟨readTypeRef depth, writeTypeRef⟩ := by
  induction depth with
  | zero => exact fun site json value read => nomatch read
  | succ depth ih =>
      intro site json value read
      change (writeTypeRef value).depth ≤ site.levels
      rw [writeTypeRef_eq (readTypeRef depth)]
      exact fits_record values_named (RecordFields.leaveRoom_of_flat rfl)
        (.cons fits_text <| .cons fits_text <| .cons (fits_referent ih) .nil) site json value read

theorem fits_typeRef : typeRef.Fits :=
  fun site json value read => fits_readTypeRef (site.levels + 1) site json value read

theorem opens_typeRef : typeRef.Opens := fun site json value read =>
  opens_record "TypeBinding" (typeRefFields (readTypeRef site.levels)) _ site json value read

theorem fits_modifiers : modifiers.Fits :=
  fits_record (fun _ => rfl) (RecordFields.leaveRoom_of_flat rfl) <|
    .cons fits_flag <| .cons fits_flag <| .cons fits_flag <| .cons fits_flag .nil

/-! ## Members -/

theorem fits_constant : constant.Fits := by
  apply fits_choice
  simp only [constantVariants, List.forall_mem_cons]
  exact ⟨fits_carried flag fits_flag fun _ => rfl,
    fits_carried unsigned16 (fits_of_flat fun _ => rfl) fun _ => rfl,
    fits_carried int8 (fits_of_flat fun _ => rfl) fun _ => rfl,
    fits_carried int16 (fits_of_flat fun _ => rfl) fun _ => rfl,
    fits_carried int32 (fits_of_flat fun _ => rfl) fun _ => rfl,
    fits_carried int64 (fits_of_flat fun _ => rfl) fun _ => rfl,
    fits_carried single (fits_of_flat fun _ => depth_numberOrNull _) fun _ => rfl,
    fits_carried double (fits_of_flat fun _ => depth_numberOrNull _) fun _ => rfl,
    fits_carried text fits_text fun _ => rfl, by simp⟩

theorem fits_variable : variableCodec.Fits :=
  fits_record (fun _ => rfl)
    (RecordFields.leaveRoom_of_opens (.there (.here rfl opens_typeRef)) (by decide)) <|
    .cons fits_text <| .cons fits_typeRef <| .cons fits_modifiers <|
    .cons (fits_nullable fits_constant) <| .cons fits_flag <| .cons fits_flag .nil

theorem fits_field : field.Fits :=
  fits_record (fun _ => rfl)
    (RecordFields.leaveRoom_of_opens (.here rfl opens_typeRef) (by decide)) <|
    .cons fits_typeRef <| .cons fits_modifiers <| .cons (fits_nullable fits_text) <|
    .cons (fits_list (fits_record (fun _ => rfl) (RecordFields.leaveRoom_of_flat rfl)
      (.cons fits_variable .nil))) .nil

theorem fits_signature : signature.Fits :=
  fits_record (fun _ => rfl)
    (RecordFields.leaveRoom_of_opens
      (.there <| .there <| .there <| .there <| .here rfl opens_typeRef) (by decide)) <|
    .cons fits_text <| .cons (fits_names _ _) <| .cons fits_modifiers <|
    .cons (fits_list (fits_record (fun _ => rfl) (RecordFields.leaveRoom_of_flat rfl)
      (.cons fits_text <| .cons fits_typeRef .nil))) <|
    .cons fits_typeRef <| .cons fits_flag <| .cons fits_flag <|
    .cons (fits_nullable fits_text) .nil

theorem fits_annotations : (list annotationUse).Fits :=
  fits_list <| fits_record (fun _ => rfl) (RecordFields.leaveRoom_of_flat rfl) <|
    .cons fits_text .nil

theorem fits_method : method.Fits :=
  fits_record (fun _ => rfl)
    (RecordFields.leaveRoom_of_opens (.here rfl (opens_record _ _ _)) (by decide)) <|
    .cons fits_signature <| .cons (fits_nullable fits_text) <| .cons fits_annotations <|
    .cons fits_flag .nil

/-! ## Declarations -/

theorem fits_typeDeclaration : typeDeclaration.Fits :=
  fits_record (fun _ => rfl)
    (RecordFields.leaveRoom_of_opens (.here rfl opens_typeRef) (by decide)) <|
    .cons fits_typeRef <| .cons (fits_nullable fits_typeRef) <| .cons (fits_list fits_typeRef) <|
    .cons fits_modifiers <| .cons fits_annotations <| .cons (fits_nullable fits_text) <|
    .cons (fits_list fits_field) <| .cons (fits_list fits_method) <| .cons fits_flag .nil

theorem fits_enumDeclaration : enumDeclaration.Fits :=
  fits_record (fun _ => rfl)
    (RecordFields.leaveRoom_of_opens (.here rfl opens_typeRef) (by decide)) <|
    .cons fits_typeRef <| .cons (fits_list fits_typeRef) <| .cons fits_annotations <|
    .cons (fits_nullable fits_text) <|
    .cons (fits_list (fits_record (fun _ => rfl) (RecordFields.leaveRoom_of_flat rfl)
      (.cons fits_text <| .cons fits_variable .nil))) <|
    .cons (fits_list fits_field) <| .cons (fits_list fits_method) <| .cons fits_flag .nil

theorem fits_annotationDeclaration : annotationDeclaration.Fits :=
  fits_record (fun _ => rfl)
    (RecordFields.leaveRoom_of_opens (.here rfl opens_typeRef) (by decide)) <|
    .cons fits_typeRef <| .cons (fits_names _ _) <| .cons fits_annotations <|
    .cons (fits_nullable fits_text) <|
    .cons (fits_list (fits_record (fun _ => rfl) (RecordFields.leaveRoom_of_flat rfl)
      (.cons fits_text <| .cons fits_typeRef <| .cons (fits_nullable fits_text) .nil))) <|
    .cons (fits_list fits_field) <| .cons (fits_list fits_method) <| .cons fits_flag .nil

theorem readContent_fits {form : DeclarationForm} {site : Site} {json : Json} {whole : Declaration}
    (read : readContent form site json = .ok whole) :
    (writeDeclaration whole).depth ≤ site.levels := by
  cases form with
  | ofType =>
      obtain ⟨content, content_read, rfl⟩ := map_eq_ok_iff.mp read
      exact fits_typeDeclaration site json content content_read
  | ofEnum =>
      obtain ⟨content, content_read, rfl⟩ := map_eq_ok_iff.mp read
      exact fits_enumDeclaration site json content content_read
  | ofAnnotationType =>
      obtain ⟨content, content_read, rfl⟩ := map_eq_ok_iff.mp read
      exact fits_annotationDeclaration site json content content_read

/-- A declaration is read from an object or an array, as the content of some form. -/
theorem readDeclaration_content {site : Site} {json : Json} {whole : Declaration}
    (read : readDeclaration site json = .ok whole) :
    ∃ form content, readContent form { site with isReadAhead := true } content = .ok whole := by
  unfold readDeclaration at read
  dsimp only at read
  split at read
  · next members =>
      obtain ⟨inside, _, run⟩ := ok_of_bind_eq_ok read
      obtain ⟨⟨tag, others⟩, _, content_read⟩ := ok_of_bind_eq_ok run
      cases tag with
      | none => cases content_read
      | some form => exact ⟨form, .object others, content_read⟩
  · next items =>
      obtain ⟨inside, _, run⟩ := ok_of_bind_eq_ok read
      cases items with
      | nil => cases run
      | cons tag rest =>
          obtain ⟨form, _, run⟩ := ok_of_bind_eq_ok run
          split at run
          · exact ⟨form, .array rest, run⟩
          · cases run
  · exact absurd read mismatch_ne_ok

theorem fits_declaration : declaration.Fits := by
  intro site json whole read
  obtain ⟨form, content, content_read⟩ := readDeclaration_content read
  have fits := readContent_fits content_read
  exact fits

/-- A unit that was read is written in no more levels than a text may have. -/
theorem depth_write_of_parse {text : String} {unit : SourceUnit}
    (read : sourceUnit.parse text = .ok unit) : (sourceUnit.write unit).depth ≤ maxLevels := by
  have value_read := read_of_readDocument read
  exact readRecord_fits (fun _ => rfl)
    (.cons fits_text <| .cons fits_text <| .cons (fits_list fits_declaration) .nil)
    (fun _ _ => by decide) value_read

end HeaderForge.Manifest
