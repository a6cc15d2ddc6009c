import HeaderForge.Proofs.Manifest.Records

/-!
# References inside references

References are read with a count of those that may still follow inside. Each opens a level, so where
levels are left the count is never used up: references are read as records whose references inside are
read in the same way.
-/

namespace HeaderForge.Manifest

/-- The readers read alike where fewer levels than the given number are left. -/
def AgreeBelow (bound : Nat) (first second : Reader α) : Prop :=
  ∀ site json, site.levels < bound → first site json = second site json

/-- The variants are read alike where fewer levels than the given number are left. -/
structure Variant.AgreeBelow (bound : Nat) (first second : Variant α) : Prop where
  bare : first.readBare = second.readBare
  carried : Manifest.AgreeBelow bound first.readCarried second.readCarried

/-- The named variants have the same names and are read alike. -/
def NamedAgreeBelow (bound : Nat) (first second : String × Variant α) : Prop :=
  first.1 = second.1 ∧ first.2.AgreeBelow bound second.2

theorem Variant.AgreeBelow.refl (bound : Nat) (only : Variant α) : only.AgreeBelow bound only :=
  ⟨rfl, fun _ _ _ => rfl⟩

theorem carrying_agreeBelow {bound : Nat} {first second : Reader α}
    (agree : AgreeBelow bound first second) :
    (Variant.carrying first).AgreeBelow bound (.carrying second) :=
  ⟨rfl, agree⟩

theorem AgreeBelow.map {bound : Nat} {first second : Reader α} (agree : AgreeBelow bound first second)
    (wrap : α → β) :
    AgreeBelow bound (fun site json => (first site json).map wrap)
      (fun site json => (second site json).map wrap) :=
  fun site json below => congrArg (Except.map wrap) (agree site json below)

theorem AgreeBelow.nullable {bound : Nat} {first second : Reader α} {write : α → Json}
    (agree : AgreeBelow bound first second) :
    AgreeBelow bound (nullable ⟨first, write⟩).read (Manifest.nullable ⟨second, write⟩).read := by
  intro site json below
  cases json with
  | null => rfl
  | _ => exact congrArg (Except.map some) (agree site _ below)

theorem lookup_agree {bound : Nat} {variants others : List (String × Variant α)}
    (agree : List.Forall₂ (NamedAgreeBelow bound) variants others) (name : String) :
    Option.Rel (Variant.AgreeBelow bound) (variants.lookup name) (others.lookup name) := by
  induction agree with
  | nil => exact .none
  | @cons first second variants others first_agrees rest_agree ih =>
      obtain ⟨first_name, first⟩ := first
      obtain ⟨second_name, second⟩ := second
      obtain ⟨rfl, agrees⟩ := first_agrees
      rw [List.lookup_cons, List.lookup_cons]
      cases name == first_name with
      | true => exact .some agrees
      | false => exact ih

/-- Of variants read alike, those of one name are, and the same names are known. -/
theorem findVariant_bind_agree {bound : Nat} {variants others : List (String × Variant α)}
    (agree : List.Forall₂ (NamedAgreeBelow bound) variants others) (name : String)
    {run : Variant α → Except Fault β}
    (respects : ∀ first second, first.AgreeBelow bound second → run first = run second) :
    (findVariant variants name >>= run) = (findVariant others name >>= run) := by
  have names_eq : variants.map Prod.fst = others.map Prod.fst := by
    induction agree with
    | nil => rfl
    | cons first_agrees _ ih => rw [List.map_cons, List.map_cons, first_agrees.1, ih]
  have found := lookup_agree agree name
  unfold findVariant
  rw [names_eq]
  generalize variants.lookup name = first at found
  generalize others.lookup name = second at found
  cases found with
  | none => rfl
  | some agrees => exact respects _ _ agrees

theorem readChoice_agree {bound : Nat} {variants others : List (String × Variant α)}
    (agree : List.Forall₂ (NamedAgreeBelow bound) variants others) :
    AgreeBelow (bound + 1) (readChoice variants) (readChoice others) := by
  rintro ⟨ahead, levels⟩ json below
  have carried_eq (name : String) (json : Json) :
      (Site.inside ⟨ahead, levels⟩ >>= fun inside =>
          findVariant variants name >>= fun variant => variant.readCarried inside json) =
        (Site.inside ⟨ahead, levels⟩ >>= fun inside =>
          findVariant others name >>= fun variant => variant.readCarried inside json) := by
    cases levels with
    | zero => rfl
    | succ levels =>
        exact findVariant_bind_agree agree name fun _ _ agrees =>
          agrees.carried ⟨ahead, levels⟩ json (Nat.lt_of_succ_lt_succ below)
  cases json with
  | string content =>
      cases content with
      | none => rfl
      | some name => exact findVariant_bind_agree agree name fun _ _ agrees => agrees.bare
  | object members =>
      cases members with
      | nil => rfl
      | cons member rest =>
          obtain ⟨_ | name, json⟩ := member
          · rfl
          · simp only [readChoice]
            cases ahead with
            | true =>
                cases rest with
                | nil => exact carried_eq name json
                | cons _ _ => rfl
            | false =>
                have taken := congrArg (· >>= fun value =>
                  if rest.isEmpty then pure value else .error .malformed) (carried_eq name json)
                simp only [bind_assoc] at taken
                exact taken
  | _ => rfl

theorem referent_agree {bound : Nat} {first second : Reader TypeRef}
    (agree : AgreeBelow bound first second) :
    AgreeBelow (bound + 1) (readChoice (referentVariants first))
      (readChoice (referentVariants second)) := by
  refine readChoice_agree ?_
  refine .cons ⟨rfl, .refl bound _⟩ <| .cons ⟨rfl, .refl bound _⟩ <| .cons ⟨rfl, .refl bound _⟩ <|
    .cons ⟨rfl, .refl bound _⟩ <| .cons ⟨rfl, .refl bound _⟩ <| .cons ⟨rfl, ?_⟩ <|
    .cons ⟨rfl, ?_⟩ .nil
  · exact carrying_agreeBelow (agree.map Referent.array)
  · exact carrying_agreeBelow (agree.nullable.map Referent.typeVariable)

/-- What is made of the fields of a reference. -/
def nameReferent : Values [String, String, Referent] → TypeRef :=
  fun (package, name, kind, ()) => kind.named package name

/-- Reads a reference, given a reader of the references inside. -/
def readReference (inner : Reader TypeRef) : Reader TypeRef :=
  readRecord "TypeBinding" (typeRefFields inner) nameReferent

namespace RecordFields

/-- At the site the fields read alike: they have the same names and are left out alike. -/
inductive ReadAlike (site : Site) :
    {types : List Type} → RecordFields σ types → RecordFields σ types → Prop
  | nil : ReadAlike site .nil .nil
  | cons {α : Type} {types : List Type} {field other : RecordField σ α}
      {rest others : RecordFields σ types} (name_eq : field.name = other.name)
      (absent_eq : field.absent = other.absent)
      (read_eq : field.codec.read site = other.codec.read site)
      (rest_alike : ReadAlike site rest others) : ReadAlike site (.cons field rest) (.cons other others)

namespace ReadAlike

variable {fields others : RecordFields σ types} {site : Site}

theorem emptySlots_eq (alike : fields.ReadAlike site others) : fields.emptySlots = others.emptySlots := by
  induction alike with
  | nil => rfl
  | cons _ _ _ _ ih => rw [emptySlots, emptySlots, ih]

theorem fill?_eq (alike : fields.ReadAlike site others) (slots : Slots types) (key : String)
    (json : Json) : fields.fill? slots site key json = others.fill? slots site key json := by
  induction alike with
  | nil => rfl
  | cons name_eq _ read_eq _ ih =>
      obtain ⟨slot, slots⟩ := slots
      rw [fill?, fill?, name_eq, read_eq, ih]

theorem fillAll_eq (alike : fields.ReadAlike site others) (slots : Slots types)
    (members : List (Option String × Json)) :
    fields.fillAll site slots members = others.fillAll site slots members := by
  induction members generalizing slots with
  | nil => rfl
  | cons member members ih =>
      obtain ⟨_ | key, json⟩ := member
      · rfl
      · simp only [fillAll, alike.fill?_eq, ih]

theorem close_eq (alike : fields.ReadAlike site others) (slots : Slots types) :
    fields.close slots = others.close slots := by
  induction alike with
  | nil => rfl
  | cons name_eq absent_eq _ _ ih =>
      obtain ⟨slot, slots⟩ := slots
      simp only [close, name_eq, absent_eq, ih]

theorem readItems_eq (alike : fields.ReadAlike site others) (expected : String) (count : Nat)
    (items : List Json) :
    fields.readItems site expected count items = others.readItems site expected count items := by
  induction alike generalizing count items with
  | nil => rfl
  | cons _ absent_eq read_eq _ ih =>
      cases items with
      | nil => rw [readItems, readItems, absent_eq, ih]
      | cons item items => rw [readItems, readItems, read_eq, ih]

end ReadAlike

end RecordFields

/-- Records whose fields read alike inside are read alike. -/
theorem readRecord_eq {fields others : RecordFields σ types} {ahead : Bool} {levels : Nat}
    (alike : fields.ReadAlike ⟨ahead, levels⟩ others) (name : String) (make : Values types → σ)
    (json : Json) :
    readRecord name fields make ⟨ahead, levels + 1⟩ json =
      readRecord name others make ⟨ahead, levels + 1⟩ json := by
  cases json with
  | object members =>
      simp only [readRecord, Site.inside, Bind.bind, Except.bind, alike.emptySlots_eq,
        alike.fillAll_eq, alike.close_eq]
  | array items => simp only [readRecord, Site.inside, Bind.bind, Except.bind, alike.readItems_eq]
  | _ => rfl

theorem readReference_agree {bound : Nat} {first second : Reader TypeRef}
    (agree : AgreeBelow bound first second) :
    AgreeBelow (bound + 1) (readReference first) (readReference second) := by
  rintro ⟨ahead, levels⟩ json below
  cases levels with
  | zero => cases json <;> rfl
  | succ levels =>
      have kind_eq : readChoice (referentVariants first) ⟨ahead, levels⟩ =
          readChoice (referentVariants second) ⟨ahead, levels⟩ :=
        funext fun json => referent_agree agree ⟨ahead, levels⟩ json (Nat.lt_of_succ_lt below)
      have alike : (typeRefFields first).ReadAlike ⟨ahead, levels⟩ (typeRefFields second) :=
        .cons rfl rfl rfl <| .cons rfl rfl rfl <| .cons rfl rfl kind_eq .nil
      exact readRecord_eq alike "TypeBinding" nameReferent json

theorem readTypeRef_agree {bound first second : Nat} (first_above : bound ≤ first)
    (second_above : bound ≤ second) : AgreeBelow bound (readTypeRef first) (readTypeRef second) := by
  induction bound generalizing first second with
  | zero => exact fun _ _ below => absurd below (Nat.not_lt_zero _)
  | succ bound ih =>
      obtain ⟨first, rfl⟩ := Nat.exists_eq_add_of_le' first_above
      obtain ⟨second, rfl⟩ := Nat.exists_eq_add_of_le' second_above
      exact readReference_agree (ih (Nat.le_add_left _ _) (Nat.le_add_left _ _))

/-- A reference is a record in which references are read. -/
theorem typeRef_read_eq : typeRef.read = readReference typeRef.read := by
  funext site json
  have agree : AgreeBelow site.levels (readTypeRef site.levels) typeRef.read :=
    fun inside inner below => readTypeRef_agree below (Nat.le_refl _) inside inner (Nat.lt_succ_self _)
  exact readReference_agree agree site json (Nat.lt_succ_self _)

end HeaderForge.Manifest
