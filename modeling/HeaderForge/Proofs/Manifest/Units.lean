import HeaderForge.Proofs.Manifest.Codecs

/-!
# Manifests read back

What is written for a source unit reads back as that unit. Of the numbers written for floating-point
constants it is only assumed that each of them does.
-/

namespace HeaderForge

/-- The number written for the constant reads back as the constant, if it is a floating-point one. -/
def Constant.ReadsBack : Constant → Prop
  | .float value => Manifest.single.parse (Manifest.single.print value) = .ok value
  | .double value => Manifest.double.parse (Manifest.double.print value) = .ok value
  | _ => True

/-- The variables of the declaration: those that its fields declare, and its constants. -/
def Declaration.variablesOf : Declaration → List Variable
  | .ofType declaration => fragmentsOf declaration.fields
  | .ofEnum declaration =>
    fragmentsOf declaration.fields ++ declaration.constants.map EnumConstant.storage
  | .ofAnnotationType declaration => fragmentsOf declaration.fields

/-- The values of the variables of a unit, of those that have one. -/
def SourceUnit.constantsOf (unit : SourceUnit) : List Constant :=
  (unit.declarations.flatMap Declaration.variablesOf).filterMap Variable.constant

namespace Manifest

/-! ## Types -/

theorem keeps_primitive (type : Primitive) : primitive.Keeps type := by
  apply keeps_names
  cases type <;> rfl

theorem writeTypeRef_eq (inner : Reader TypeRef) (type : TypeRef) :
    writeTypeRef type = .ofMembers ((typeRefFields inner).members type) := by
  cases type <;> rfl

theorem isPlain_tagged {name : String} {json : Json} (plain : json.IsPlain) :
    (tagged name json).IsPlain :=
  .ofMembers (by simpa using plain)

theorem isPlain_writeNamed {package name : String} {kind : Json} (plain : kind.IsPlain) :
    (writeNamed package name kind).IsPlain := by
  refine .ofMembers ?_
  simp only [List.forall_mem_cons]
  exact ⟨.text package, .text name, plain, by simp⟩

theorem isPlain_writeTypeRef (type : TypeRef) : (writeTypeRef type).IsPlain := by
  induction type with
  | primitive package name type => exact isPlain_writeNamed (isPlain_tagged (.text type.sourceName))
  | declared package name sort => exact isPlain_writeNamed (.text (sortName sort))
  | array package name element ih => exact isPlain_writeNamed (isPlain_tagged ih)
  | unbounded package name => exact isPlain_writeNamed (isPlain_tagged .null)
  | bounded package name bound ih => exact isPlain_writeNamed (isPlain_tagged ih)

theorem writeTypeRef_ne_null (type : TypeRef) : writeTypeRef type ≠ .null := by
  rw [writeTypeRef_eq (readTypeRef 0)]
  exact Json.noConfusion

theorem names_typeRefFields (inner : Reader TypeRef) : (typeRefFields inner).names.Nodup := by
  change ["package", "name", "kind"].Nodup
  decide

theorem readTypeRef_of_referent {type : TypeRef} {site : Site} {depth levels : Nat}
    (levels_eq : site.levels = levels + 1)
    (kind_read : readChoice (referentVariants (readTypeRef depth)) ⟨site.isReadAhead, levels⟩
      (writeReferent (referent type)) = .ok (referent type)) :
    readTypeRef (depth + 1) site (writeTypeRef type) = .ok type := by
  rw [writeTypeRef_eq (readTypeRef depth)]
  refine readRecord_members "TypeBinding" (names_typeRefFields _) ?_ levels_eq
    (.cons rfl (.cons rfl (.cons kind_read .nil)))
  cases type <;> rfl

/-- A referent that carries a value has a level to open for it. -/
theorem exists_levels_of_kind {type : TypeRef} {site : Site} {name : String} {json : Json}
    (kind_eq : writeReferent (referent type) = tagged name json)
    (fits : (writeTypeRef type).depth ≤ site.levels) :
    ∃ levels, site.levels = levels + 2 ∧ json.depth ≤ levels := by
  rw [writeTypeRef_eq (readTypeRef 0)] at fits
  obtain ⟨levels, levels_eq, values_fit⟩ := exists_levels_of_fits fits
  have kind_fits : (writeReferent (referent type)).depth ≤ levels :=
    values_fit ("kind", _) (List.mem_cons_of_mem _ (List.mem_cons_of_mem _ List.mem_cons_self))
  rw [kind_eq] at kind_fits
  have opened_fits : (tagged name json).depth ≤ (Site.mk site.isReadAhead levels).levels := kind_fits
  obtain ⟨inner_levels, inner_eq, json_fits⟩ := exists_levels_of_fits opened_fits
  exact ⟨inner_levels, by rw [levels_eq]; exact congrArg Nat.succ inner_eq,
    json_fits (name, json) List.mem_cons_self⟩

/-- A reader of references reads those that fit the levels left, if it allows for more of them inside
one another than there are levels. -/
theorem readTypeRef_writeTypeRef {type : TypeRef} {site : Site} {depth : Nat}
    (fits : (writeTypeRef type).depth ≤ site.levels) (enough : site.levels < depth) :
    readTypeRef depth site (writeTypeRef type) = .ok type := by
  induction type generalizing site depth with
  | primitive package name type =>
      obtain ⟨levels, levels_eq, type_fits⟩ := exists_levels_of_kind rfl fits
      obtain ⟨depth, rfl⟩ : ∃ less, depth = less + 1 := ⟨depth - 1, by omega⟩
      refine readTypeRef_of_referent levels_eq (readChoice_carrying rfl rfl ?_)
      rw [(keeps_primitive type).read ⟨site.isReadAhead, levels⟩ type_fits]
      rfl
  | declared package name sort =>
      have positive := depth_ofMembers_pos
        ((typeRefFields (readTypeRef 0)).members (.declared package name sort))
      rw [← writeTypeRef_eq] at positive
      obtain ⟨levels, levels_eq⟩ : ∃ levels, site.levels = levels + 1 := ⟨site.levels - 1, by omega⟩
      obtain ⟨depth, rfl⟩ : ∃ less, depth = less + 1 := ⟨depth - 1, by omega⟩
      refine readTypeRef_of_referent levels_eq (readChoice_plain ?_ _)
      cases sort <;> rfl
  | array package name element ih =>
      obtain ⟨levels, levels_eq, element_fits⟩ := exists_levels_of_kind rfl fits
      obtain ⟨depth, rfl⟩ : ∃ less, depth = less + 1 := ⟨depth - 1, by omega⟩
      have element_read : readTypeRef depth ⟨site.isReadAhead, levels⟩ (writeTypeRef element) =
          .ok element := ih element_fits (show levels < depth by omega)
      refine readTypeRef_of_referent levels_eq (readChoice_carrying rfl rfl ?_)
      rw [element_read]
      rfl
  | unbounded package name =>
      obtain ⟨levels, levels_eq, _⟩ := exists_levels_of_kind rfl fits
      obtain ⟨depth, rfl⟩ : ∃ less, depth = less + 1 := ⟨depth - 1, by omega⟩
      exact readTypeRef_of_referent levels_eq (readChoice_carrying rfl rfl rfl)
  | bounded package name bound ih =>
      obtain ⟨levels, levels_eq, bound_fits⟩ := exists_levels_of_kind rfl fits
      obtain ⟨depth, rfl⟩ : ∃ less, depth = less + 1 := ⟨depth - 1, by omega⟩
      have bound_read : readTypeRef depth ⟨site.isReadAhead, levels⟩ (writeTypeRef bound) =
          .ok bound := ih bound_fits (show levels < depth by omega)
      have given_read : (nullable ⟨readTypeRef depth, writeTypeRef⟩).read ⟨site.isReadAhead, levels⟩
          (writeTypeRef bound) = .ok (some bound) :=
        nullable_read (writeTypeRef_ne_null bound) bound_read
      refine readTypeRef_of_referent levels_eq (readChoice_carrying rfl rfl ?_)
      exact congrArg (Except.map Referent.typeVariable) given_read

theorem keeps_typeRef (type : TypeRef) : typeRef.Keeps type :=
  ⟨isPlain_writeTypeRef type,
    fun site fits => readTypeRef_writeTypeRef fits (Nat.lt_succ_self site.levels)⟩

theorem keeps_modifiers (value : Modifiers) : modifiers.Keeps value :=
  keeps_record (by decide) rfl <|
    .cons (keeps_flag _) <| .cons (keeps_flag _) <| .cons (keeps_flag _) <| .cons (keeps_flag _) .nil

/-! ## Members -/

theorem keeps_nullableText (content : Option String) : (nullable text).Keeps content :=
  keeps_nullable (fun given _ => keeps_text given) fun _ => Json.noConfusion

theorem keeps_nullableTypeRef (type : Option TypeRef) : (nullable typeRef).Keeps type :=
  keeps_nullable (fun given _ => keeps_typeRef given) writeTypeRef_ne_null

theorem keeps_typeRefs (types : List TypeRef) : (list typeRef).Keeps types :=
  keeps_list fun type _ => keeps_typeRef type

theorem keeps_constant {value : Constant} (reads : value.ReadsBack) : constant.Keeps value := by
  cases value with
  | boolean value => exact keeps_carried rfl rfl (keeps_flag value)
  | char value => exact keeps_carried rfl rfl (keeps_unsigned16 value)
  | byte value => exact keeps_carried rfl rfl (keeps_int8 value)
  | short value => exact keeps_carried rfl rfl (keeps_int16 value)
  | int value => exact keeps_carried rfl rfl (keeps_int32 value)
  | long value => exact keeps_carried rfl rfl (keeps_int64 value)
  | float value => exact keeps_carried rfl rfl (keeps_single reads)
  | double value => exact keeps_carried rfl rfl (keeps_double reads)
  | string value => exact keeps_carried rfl rfl (keeps_text value)

theorem writeConstant_ne_null (value : Constant) : constant.write value ≠ .null := by
  cases value <;> exact Json.noConfusion

theorem keeps_variable {var : Variable} (reads : ∀ value ∈ var.constant, value.ReadsBack) :
    variableCodec.Keeps var := by
  have keeps_value : (nullable constant).Keeps var.constant :=
    keeps_nullable (fun value value_eq => keeps_constant (reads value value_eq))
      writeConstant_ne_null
  exact keeps_record (by decide) rfl <|
    .cons (keeps_text _) <| .cons (keeps_typeRef _) <| .cons (keeps_modifiers _) <|
    .cons keeps_value <| .cons (keeps_flag _) <| .cons (keeps_flag _) .nil

theorem keeps_fragment {var : Variable} (reads : ∀ value ∈ var.constant, value.ReadsBack) :
    fragment.Keeps var :=
  keeps_record (by decide) rfl (.cons (keeps_variable reads) .nil)

theorem keeps_field {whole : Field}
    (reads : ∀ var ∈ whole.fragments, ∀ value ∈ var.constant, value.ReadsBack) :
    field.Keeps whole :=
  keeps_record (by decide) rfl <|
    .cons (keeps_typeRef _) <| .cons (keeps_modifiers _) <| .cons (keeps_nullableText _) <|
    .cons (keeps_list fun var var_mem => keeps_fragment (reads var var_mem)) .nil

theorem keeps_fields {fields : List Field}
    (reads : ∀ var ∈ fragmentsOf fields, ∀ value ∈ var.constant, value.ReadsBack) :
    (list field).Keeps fields :=
  keeps_list fun _ whole_mem => keeps_field fun var var_mem =>
    reads var (List.mem_flatMap_of_mem whole_mem var_mem)

theorem keeps_methodSort (sort : MethodSort) : methodSort.Keeps sort := by
  apply keeps_names
  cases sort <;> rfl

theorem keeps_parameter (whole : Parameter) : parameter.Keeps whole :=
  keeps_record (by decide) rfl (.cons (keeps_text _) (.cons (keeps_typeRef _) .nil))

theorem keeps_signature (whole : Signature) : signature.Keeps whole :=
  keeps_record (by decide) rfl <|
    .cons (keeps_text _) <| .cons (keeps_methodSort _) <| .cons (keeps_modifiers _) <|
    .cons (keeps_list fun _ _ => keeps_parameter _) <| .cons (keeps_typeRef _) <|
    .cons (keeps_flag _) <| .cons (keeps_flag _) <| .cons (keeps_nullableText _) .nil

theorem keeps_annotations (uses : List AnnotationUse) : (list annotationUse).Keeps uses :=
  keeps_list fun _ _ => keeps_record (by decide) rfl (.cons (keeps_text _) .nil)

theorem keeps_methods (methods : List Method) : (list method).Keeps methods :=
  keeps_list fun _ _ => keeps_record (by decide) rfl <|
    .cons (keeps_signature _) <| .cons (keeps_nullableText _) <| .cons (keeps_annotations _) <|
    .cons (keeps_flag _) .nil

/-! ## Declarations -/

theorem keeps_typeDeclaration {whole : TypeDeclaration}
    (reads : ∀ var ∈ fragmentsOf whole.fields, ∀ value ∈ var.constant, value.ReadsBack) :
    typeDeclaration.Keeps whole :=
  keeps_record (by decide) rfl <|
    .cons (keeps_typeRef _) <| .cons (keeps_nullableTypeRef _) <| .cons (keeps_typeRefs _) <|
    .cons (keeps_modifiers _) <| .cons (keeps_annotations _) <| .cons (keeps_nullableText _) <|
    .cons (keeps_fields reads) <| .cons (keeps_methods _) <| .cons (keeps_flag _) .nil

theorem keeps_enumConstant {whole : EnumConstant}
    (reads : ∀ value ∈ whole.storage.constant, value.ReadsBack) : enumConstant.Keeps whole :=
  keeps_record (by decide) rfl (.cons (keeps_text _) (.cons (keeps_variable reads) .nil))

theorem keeps_enumDeclaration {whole : EnumDeclaration}
    (reads : ∀ var ∈ fragmentsOf whole.fields, ∀ value ∈ var.constant, value.ReadsBack)
    (constants_read : ∀ constant ∈ whole.constants, ∀ value ∈ constant.storage.constant,
      value.ReadsBack) :
    enumDeclaration.Keeps whole :=
  keeps_record (by decide) rfl <|
    .cons (keeps_typeRef _) <| .cons (keeps_typeRefs _) <| .cons (keeps_annotations _) <|
    .cons (keeps_nullableText _) <|
    .cons (keeps_list fun constant constant_mem =>
      keeps_enumConstant (constants_read constant constant_mem)) <|
    .cons (keeps_fields reads) <| .cons (keeps_methods _) <| .cons (keeps_flag _) .nil

theorem keeps_retention (value : Retention) : retention.Keeps value := by
  apply keeps_names
  cases value <;> rfl

theorem keeps_annotationMember (whole : AnnotationMember) : annotationMember.Keeps whole :=
  keeps_record (by decide) rfl <|
    .cons (keeps_text _) <| .cons (keeps_typeRef _) <| .cons (keeps_nullableText _) .nil

theorem keeps_annotationDeclaration {whole : AnnotationDeclaration}
    (reads : ∀ var ∈ fragmentsOf whole.fields, ∀ value ∈ var.constant, value.ReadsBack) :
    annotationDeclaration.Keeps whole :=
  keeps_record (by decide) rfl <|
    .cons (keeps_typeRef _) <| .cons (keeps_retention _) <| .cons (keeps_annotations _) <|
    .cons (keeps_nullableText _) <|
    .cons (keeps_list fun _ _ => keeps_annotationMember _) <|
    .cons (keeps_fields reads) <| .cons (keeps_methods _) <| .cons (keeps_flag _) .nil

/-! ## Tags -/

/-- A tag that comes first is found, and the members beside it are passed on. -/
theorem splitTag_of_tagged {levels : Nat} {form : DeclarationForm} {members : List (String × Json)}
    (no_tag : tagName ∉ members.map Prod.fst)
    (sound : ∀ member ∈ members, member.2.isSound levels = true) :
    splitTag levels (some form) (Json.keyed members) = .ok (some form, Json.keyed members) := by
  induction members with
  | nil => rfl
  | cons member rest ih =>
      obtain ⟨key, json⟩ := member
      rw [List.map_cons, List.mem_cons, not_or] at no_tag
      rw [List.forall_mem_cons] at sound
      have key_other : key ≠ tagName := fun key_eq => no_tag.1 key_eq.symm
      have rest_split := ih no_tag.2 sound.2
      have keyed_eq : Json.keyed ((key, json) :: rest) = (some key, json) :: Json.keyed rest := rfl
      rw [keyed_eq, splitTag, rest_split]
      simp only [key_other, sound.1, if_false, if_true]
      rfl

theorem readDeclaration_tagged {name : String} {form : DeclarationForm} {site : Site}
    {members : List (String × Json)} {whole : Declaration}
    (form_eq : declarationForms.lookup name = some form) (no_tag : tagName ∉ members.map Prod.fst)
    (plain : ∀ member ∈ members, member.2.IsPlain)
    (fits : (Json.ofMembers members).depth ≤ site.levels)
    (content_read : readContent form ⟨true, site.levels⟩ (.ofMembers members) = .ok whole) :
    readDeclaration site (.ofMembers ((tagName, .text name) :: members)) = .ok whole := by
  obtain ⟨levels, levels_eq, values_fit⟩ := exists_levels_of_fits fits
  have split_eq : splitTag levels none ((some tagName, .text name) :: Json.keyed members) =
      .ok (some form, Json.keyed members) := by
    have tag_eq : readTag (.text name) = .ok form := by
      simp only [readTag, Json.text, findVariant, form_eq]
    rw [splitTag, tag_eq]
    exact splitTag_of_tagged no_tag fun member member_mem =>
      (plain member member_mem).isSound (values_fit member member_mem)
  have object_eq : Json.ofMembers ((tagName, .text name) :: members) =
      .object ((some tagName, .text name) :: Json.keyed members) := rfl
  rw [object_eq, readDeclaration]
  simp only [inside_of_pos levels_eq, Bind.bind, Except.bind, split_eq]
  exact content_read

/-- A declaration is kept if its content is, as a record without a field of the name of the tag. -/
theorem keeps_tagged {name recordName : String} {form : DeclarationForm}
    {fields : RecordFields σ types} {make : Values types → σ} {wrap : σ → Declaration} {content : σ}
    (form_eq : declarationForms.lookup name = some form)
    (write_eq : writeDeclaration (wrap content) =
      .object ((some tagName, .text name) ::
        membersOf ((record recordName fields make).write content)))
    (read_eq : ∀ site json,
      readContent form site json = ((record recordName fields make).read site json).map wrap)
    (no_tag : tagName ∉ fields.names) (keeps : (record recordName fields make).Keeps content) :
    declaration.Keeps (wrap content) := by
  have members_eq : writeDeclaration (wrap content) =
      .ofMembers ((tagName, .text name) :: fields.members content) := write_eq
  have plain : ∀ member ∈ fields.members content, member.2.IsPlain := Json.isPlain_values keeps.plain
  constructor
  · change (writeDeclaration (wrap content)).IsPlain
    rw [members_eq]
    exact .ofMembers (List.forall_mem_cons.mpr ⟨.text name, plain⟩)
  · intro site fits
    change (writeDeclaration (wrap content)).depth ≤ site.levels at fits
    change readDeclaration site (writeDeclaration (wrap content)) = .ok (wrap content)
    rw [members_eq] at fits ⊢
    obtain ⟨levels, levels_eq, values_fit⟩ := exists_levels_of_fits fits
    have content_fits : (Json.ofMembers (fields.members content)).depth ≤ site.levels := by
      rw [levels_eq, depth_ofMembers_le_iff]
      exact fun member member_mem => values_fit member (List.mem_cons_of_mem _ member_mem)
    apply readDeclaration_tagged form_eq (by rwa [RecordFields.members_names]) plain content_fits
    have content_read := keeps.read ⟨true, site.levels⟩ content_fits
    rw [read_eq]
    exact congrArg (Except.map wrap) content_read

theorem keeps_declaration {whole : Declaration}
    (reads : ∀ var ∈ whole.variablesOf, ∀ value ∈ var.constant, value.ReadsBack) :
    declaration.Keeps whole := by
  cases whole with
  | ofType content =>
      exact keeps_tagged rfl rfl (fun _ _ => rfl) (by decide) (keeps_typeDeclaration reads)
  | ofEnum content =>
      have constants_read : ∀ constant ∈ content.constants,
          ∀ value ∈ constant.storage.constant, value.ReadsBack :=
        fun constant constant_mem =>
          reads _ (List.mem_append_right _ (List.mem_map_of_mem constant_mem))
      have fields_read : ∀ var ∈ fragmentsOf content.fields,
          ∀ value ∈ var.constant, value.ReadsBack :=
        fun var var_mem => reads var (List.mem_append_left _ var_mem)
      exact keeps_tagged rfl rfl (fun _ _ => rfl) (by decide)
        (keeps_enumDeclaration fields_read constants_read)
  | ofAnnotationType content =>
      exact keeps_tagged rfl rfl (fun _ _ => rfl) (by decide) (keeps_annotationDeclaration reads)

/-! ## Units -/

theorem keeps_sourceUnit {unit : SourceUnit}
    (reads : ∀ value ∈ unit.constantsOf, value.ReadsBack) : sourceUnit.Keeps unit := by
  have reads_each : ∀ whole ∈ unit.declarations, ∀ var ∈ whole.variablesOf,
      ∀ value ∈ var.constant, value.ReadsBack := by
    intro whole whole_mem var var_mem value value_mem
    exact reads value
      (List.mem_filterMap.mpr ⟨var, List.mem_flatMap_of_mem whole_mem var_mem, value_mem⟩)
  exact keeps_record (by decide) rfl <|
    .cons (keeps_text _) <| .cons (keeps_text _) <|
    .cons (keeps_list fun whole whole_mem => keeps_declaration (reads_each whole whole_mem)) .nil

/-- Reading the text written for a source unit gives the unit, if the text does not nest too deeply and
the numbers written for its floating-point constants read back. -/
theorem sourceUnit_parse_print (unit : SourceUnit)
    (fits : (sourceUnit.write unit).depth ≤ maxLevels)
    (reads : ∀ value ∈ unit.constantsOf, value.ReadsBack) :
    sourceUnit.parse (sourceUnit.print unit) = .ok unit :=
  (keeps_sourceUnit reads).parse_print fits

/-- A unit with every form of declaration, nested types, and constants at the ends of their ranges. -/
def sampleUnit : SourceUnit :=
  let long := TypeRef.ofPrimitive .long
  let double := TypeRef.ofPrimitive .double
  let item := TypeRef.variableNamed "T" (some (.declared "app" "Item" .classType))
  { package := "app"
    sourceFile := "app/Sample.java"
    declarations :=
      [.ofType
        { type := .declared "app" "Sample" .classType
          doc := some "A \"quoted\" line\nand a tab\t"
          fields :=
            [{ type := long, modifiers := .constant
               fragments :=
                [{ name := "LEAST", type := long, constant := some (.long Int64.minValue) },
                 { name := "open", type := .arrayOf (.arrayOf item) }] },
             { type := double
               fragments :=
                [{ name := "half", type := double,
                   constant := some (.double ⟨0x3FE0000000000000⟩) }] }] },
       .ofEnum
        { type := .declared "app" "Sample.Kind" .enumType
          constants := [.ofName "A" (.declared "app" "Sample.Kind" .enumType)] },
       .ofAnnotationType
        { type := .declared "app" "Mark" .annotationType, retention := .runtime
          members := [{ name := "value", type := item, defaultText := some "" }] }] }

theorem sourceUnit_parse_print_sample :
    (sourceUnit.write sampleUnit).depth = 15 ∧
      sampleUnit.constantsOf = [.long Int64.minValue, .double ⟨0x3FE0000000000000⟩] ∧
      sourceUnit.parse (sourceUnit.print sampleUnit) = .ok sampleUnit := by
  have depth_eq : (sourceUnit.write sampleUnit).depth = 15 := by decide +kernel
  have constants_eq : sampleUnit.constantsOf =
      [.long Int64.minValue, .double ⟨0x3FE0000000000000⟩] := by decide
  refine ⟨depth_eq, constants_eq, sourceUnit_parse_print sampleUnit (by rw [depth_eq]; decide) ?_⟩
  have half_reads : (Constant.double ⟨0x3FE0000000000000⟩).ReadsBack := by
    change double.parse (double.print ⟨0x3FE0000000000000⟩) = .ok ⟨0x3FE0000000000000⟩
    decide +kernel
  simpa [constants_eq, Constant.ReadsBack] using half_reads

end Manifest

end HeaderForge
