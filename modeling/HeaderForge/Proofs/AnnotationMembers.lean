import HeaderForge.Proofs.Docs.Weaving
import HeaderForge.Proofs.Statements
import Mathlib.Data.List.Nodup

/-!
# Members of annotation types

While annotations are kept at run time, the members of their type show in four lists: as properties, as
variables, as parts of the constructor and, if they have defaults, as methods that give these. All lists
but one keep the order of the members. The constructor takes them by their names, so that their order
does not matter to those who call it. The members of other annotation types do not show at all.
-/

namespace HeaderForge

namespace MethodFamily

/-- The name begins with a word that has an ownership rule. -/
def StartsReserved (name : String) : Prop := ∃ word ∈ reservedWords, ∃ rest, name = word ++ rest

theorem needsOverride_iff (name : String) : needsOverride name = true ↔ StartsReserved name := by
  have starts_iff (word : String) :
      Text.startsWith name word = true ↔ ∃ rest, name = word ++ rest := by
    rw [Text.startsWith, List.isPrefixOf_iff_prefix]
    constructor
    · rintro ⟨rest, name_eq⟩
      refine ⟨String.ofList rest, String.toList_inj.mp ?_⟩
      rw [← name_eq, String.toList_append, String.toList_ofList]
    · rintro ⟨rest, rfl⟩
      rw [String.toList_append]
      exact List.prefix_append _ _
  simp only [needsOverride, List.any_eq_true, starts_iff, StartsReserved]

instance : DecidablePred StartsReserved := fun name => decidable_of_iff _ (needsOverride_iff name)

end MethodFamily

/-! ## Members by name -/

/-- The members in ascending order of their names. Those of one name keep their order. -/
structure ListedByName (listed members : List AnnotationMember) : Prop where
  /-- The names ascend. -/
  ascending : listed.Pairwise fun earlier later => earlier.name ≤ later.name
  /-- For every name, the members of that name are all there, in their order. -/
  keepsOrder (name : String) :
    listed.filter (fun member => member.name = name) =
      members.filter fun member => member.name = name

namespace ListedByName

variable {listed other members : List AnnotationMember}

theorem mem_iff (byName : ListedByName listed members) (member : AnnotationMember) :
    member ∈ listed ↔ member ∈ members := by
  have same : member ∈ listed.filter (fun other => other.name = member.name) ↔
      member ∈ members.filter fun other => other.name = member.name := by
    rw [byName.keepsOrder]
  simpa using same

theorem of_cons {first : AnnotationMember} (byName : ListedByName (first :: listed) (first :: other)) :
    ListedByName listed other := by
  refine ⟨(List.pairwise_cons.mp byName.ascending).2, fun name => ?_⟩
  have same := byName.keepsOrder name
  rw [List.filter_cons, List.filter_cons] at same
  split at same
  · exact List.tail_eq_of_cons_eq same
  · exact same

/-- Lists that are both ascending and have the members of each name in the same order are the same. -/
theorem eq_of_ascending (byName : ListedByName listed other)
    (ascending : other.Pairwise fun earlier later => earlier.name ≤ later.name) : listed = other := by
  induction listed generalizing other with
  | nil =>
      cases other with
      | nil => rfl
      | cons first rest => cases (byName.mem_iff first).mpr List.mem_cons_self
  | cons first rest ih =>
      cases other with
      | nil => cases (byName.mem_iff first).mp List.mem_cons_self
      | cons otherFirst otherRest =>
          have least : ∀ member ∈ first :: rest, first.name ≤ member.name :=
            List.forall_mem_cons.mpr
              ⟨String.le_refl _, (List.pairwise_cons.mp byName.ascending).1⟩
          have otherLeast : ∀ member ∈ otherFirst :: otherRest, otherFirst.name ≤ member.name :=
            List.forall_mem_cons.mpr ⟨String.le_refl _, (List.pairwise_cons.mp ascending).1⟩
          have name_eq : otherFirst.name = first.name := String.le_antisymm
            (otherLeast first ((byName.mem_iff first).mp List.mem_cons_self))
            (least otherFirst ((byName.mem_iff otherFirst).mpr List.mem_cons_self))
          -- Both begin with the least name, and so with the first member of that name.
          have heads := byName.keepsOrder first.name
          simp only [List.filter_cons, name_eq, decide_true, if_true] at heads
          obtain rfl : first = otherFirst := List.head_eq_of_cons_eq heads
          rw [ih byName.of_cons (List.pairwise_cons.mp ascending).2]

theorem unique (byName : ListedByName listed members) (other_byName : ListedByName other members) :
    listed = other := by
  have same : ListedByName listed other :=
    ⟨byName.ascending, fun name => (byName.keepsOrder name).trans (other_byName.keepsOrder name).symm⟩
  exact same.eq_of_ascending other_byName.ascending

end ListedByName

namespace Naming

theorem nameLe_trans (first second third : AnnotationMember)
    (first_le : decide (first.name ≤ second.name) = true)
    (second_le : decide (second.name ≤ third.name) = true) :
    decide (first.name ≤ third.name) = true :=
  decide_eq_true (String.le_trans (of_decide_eq_true first_le) (of_decide_eq_true second_le))

theorem nameLe_total (first second : AnnotationMember) :
    (decide (first.name ≤ second.name) || decide (second.name ≤ first.name)) = true := by
  simpa using String.le_total first.name second.name

theorem ascending_sortedMembers (members : List AnnotationMember) :
    (sortedMembers members).Pairwise fun earlier later => earlier.name ≤ later.name := by
  have ascending := List.pairwise_mergeSort nameLe_trans nameLe_total members
  exact ascending.imp of_decide_eq_true

theorem sortedMembers_perm (members : List AnnotationMember) :
    (sortedMembers members).Perm members :=
  List.mergeSort_perm members _

/-- Members of one name are in no wrong order before they are sorted, so sorting leaves them alone. -/
theorem sortedMembers_listedByName (members : List AnnotationMember) :
    ListedByName (sortedMembers members) members := by
  refine ⟨ascending_sortedMembers members, fun name => ?_⟩
  have named : (members.filter fun member => member.name = name).Pairwise
      fun earlier later => decide (earlier.name ≤ later.name) = true := by
    apply List.pairwise_of_forall_mem_list
    intro first first_mem second second_mem
    simp only [List.mem_filter, decide_eq_true_eq] at first_mem second_mem
    have same_name : first.name = second.name := first_mem.2.trans second_mem.2.symm
    rw [same_name]
    exact decide_eq_true (String.le_refl second.name)
  have kept := (List.sublist_mergeSort nameLe_trans nameLe_total named List.filter_sublist).filter
    fun member => member.name = name
  rw [List.filter_filter] at kept
  simp only [Bool.and_self] at kept
  have length_eq := ((sortedMembers_perm members).filter fun member => member.name = name).length_eq
  exact (kept.eq_of_length length_eq.symm).symm

/-- Members without a common name are listed alike, whatever their order. -/
theorem sortedMembers_eq_of_perm {members others : List AnnotationMember}
    (distinct : (members.map AnnotationMember.name).Nodup) (perm : others.Perm members) :
    sortedMembers others = sortedMembers members := by
  have sorted_perm := (sortedMembers_perm others).trans (perm.trans (sortedMembers_perm members).symm)
  refine List.Perm.eq_of_pairwise ?_ (ascending_sortedMembers others)
    (ascending_sortedMembers members) sorted_perm
  intro first second first_mem second_mem first_le second_le
  have first_mem' := perm.mem_iff.mp ((sortedMembers_perm others).mem_iff.mp first_mem)
  have second_mem' := (sortedMembers_perm members).mem_iff.mp second_mem
  exact List.inj_on_of_nodup_map distinct first_mem' second_mem'
    (String.le_antisymm first_le second_le)

end Naming

namespace Header

open Page (line lines indented ended indentedLine Prints prints_lines prints_newline)

/-! ## Constructors -/

/-- The part of the constructor at a place, for a member: its keyword, its type and a name. The first
keyword goes on with the name of the constructor. -/
def constructorPart (context : Context) (place : Nat) (member : AnnotationMember) : String :=
  (if place = 0 then "With" ++ Text.capitalize member.name else member.name)
    ++ ":(" ++ context.naming.variableType member.type ++ ")" ++ member.name ++ "_"

theorem constructorPart_zero (context : Context) (member : AnnotationMember) :
    constructorPart context 0 member =
      (context.naming.memberSlot ("With" ++ Text.capitalize member.name) member).render := by
  simp [constructorPart, Naming.memberSlot, Naming.Slot.render, String.append_assoc]

theorem constructorPart_succ (context : Context) (place : Nat) (member : AnnotationMember) :
    constructorPart context (place + 1) member =
      (context.naming.memberSlot member.name member).render := by
  simp [constructorPart, Naming.memberSlot, Naming.Slot.render, String.append_assoc]

theorem mapIdx_constructorPart (context : Context) (members : List AnnotationMember) :
    members.mapIdx (constructorPart context) =
      (context.naming.memberSlots members).map Naming.Slot.render := by
  cases members with
  | nil => rfl
  | cons first rest =>
      have rest_eq : rest.mapIdx (fun place => constructorPart context (place + 1)) =
          rest.map fun member => (context.naming.memberSlot member.name member).render := by
        apply List.ext_getElem?
        intro place
        rw [List.getElem?_mapIdx, List.getElem?_map, funext (constructorPart_succ context place)]
      rw [List.mapIdx_cons, constructorPart_zero, rest_eq, Naming.memberSlots, List.map_cons,
        List.map_map]
      rfl

/-- The constructor takes the members by their names. -/
theorem annotationConstructor_eq (context : Context) (members : List AnnotationMember) :
    context.naming.annotationConstructor members =
      "- (instancetype)init"
        ++ " ".intercalate ((Naming.sortedMembers members).mapIdx (constructorPart context)) := by
  rw [mapIdx_constructorPart]
  rfl

/-! ## Lines of members -/

/-- The lines of a member among the properties: its property and, if its name begins with a reserved
word, the method that says that it belongs to no family. -/
def propertyTexts (context : Context) (member : AnnotationMember) : List String :=
  let type := context.naming.specificType member.type
  ("@property (readonly) " ++ type ++ nameSeparator type ++ member.name ++ ";") ::
    if MethodFamily.StartsReserved member.name then
      ["- (" ++ type ++ ")" ++ member.name ++ " OBJC_METHOD_FAMILY_NONE;"]
    else []

/-- The line of a member among the variables. Only if it holds line feeds, these are several. -/
def variableTexts (context : Context) (member : AnnotationMember) : List String :=
  (Text.split '\n' (memberLine context member)).map
    (indentedLine (Page.spaces 1 context.settings.indentWidth))

/-- The line of a member among the methods that give default values, if it has one. -/
def defaultTexts (context : Context) (member : AnnotationMember) : List String :=
  if member.defaultText.isSome then
    ["+ (" ++ context.naming.specificType member.type ++ ")" ++ member.name ++ "Default;"]
  else []

theorem propertyLines_eq (context : Context) (member : AnnotationMember) :
    propertyLines context member = propertyTexts context member := by
  simp only [propertyLines, propertyTexts, memberVariable, familyMark, MethodFamily.needsOverride_iff,
    String.append_assoc]
  split
  · rfl
  · rfl

/-- The lines of a protocol, with the properties of the members between empty lines. -/
def protocolTexts (context : Context) (declaration : AnnotationDeclaration) : List String :=
  ("@protocol " ++ context.naming.fullName declaration.type ++ " < JavaLangAnnotationAnnotation >")
    :: (if declaration.members = [] then []
        else "" :: declaration.members.flatMap (propertyTexts context) ++ [""])
    ++ ["", "@end"]

/-- The line that begins a class. -/
def classStart (context : Context) (declaration : AnnotationDeclaration) : String :=
  let name := context.naming.fullName declaration.type
  "@interface " ++ name ++ " : " ++ SupportLibrary.rootObject ++ adopting [name]

/-- The lines from the beginning of a class to the constructor. Without members there are no variables,
and no constructor. -/
def variablesTexts (context : Context) (declaration : AnnotationDeclaration) : List String :=
  if declaration.members = [] then ["", classStart context declaration]
  else
    ["", classStart context declaration ++ " \x7b", " @private"]
      ++ declaration.members.flatMap (variableTexts context)
      ++ ["\x7d", "", context.naming.annotationConstructor declaration.members ++ ";"]

/-- The lines of the methods that give default values, after an empty line if there are any. -/
def defaultsTexts (context : Context) (members : List AnnotationMember) : List String :=
  let texts := members.flatMap (defaultTexts context)
  if texts = [] then [] else "" :: texts

/-- The lines of a protocol and of a class, for annotations that are kept at run time. -/
def runtimeTexts (context : Context) (declaration : AnnotationDeclaration) : List String :=
  protocolTexts context declaration
    ++ (variablesTexts context declaration ++ defaultsTexts context declaration.members
      ++ ["", "@end"])

theorem prints_properties (context : Context) (members : List AnnotationMember) :
    Prints (properties context members)
      (if members = [] then [] else "" :: members.flatMap (propertyTexts context) ++ [""]) := by
  have lines_eq : members.flatMap (propertyLines context) = members.flatMap (propertyTexts context) :=
    List.flatMap_congr fun member _ => propertyLines_eq context member
  unfold properties
  rw [lines_eq]
  simp only [List.isEmpty_iff]
  split
  · exact prints_lines []
  · exact (prints_newline.append (prints_lines _)).append prints_newline

theorem prints_blockEnd : Prints blockEnd ["", "@end"] :=
  prints_newline.append (prints_lines ["@end"])

theorem prints_annotationProtocol (context : Context) {declaration : AnnotationDeclaration}
    (runtime : declaration.isRuntime = true) :
    Prints (annotationProtocol context declaration) (protocolTexts context declaration) := by
  unfold annotationProtocol
  rw [runtime, if_pos rfl]
  exact (prints_lines [_]).append (prints_properties context declaration.members)
    |>.append prints_blockEnd

theorem prints_defaultAccessors (context : Context) (members : List AnnotationMember) :
    Prints (defaultAccessors context members) (defaultsTexts context members) := by
  have toList_eq (member : AnnotationMember) :
      (defaultLine? context member).toList = defaultTexts context member := by
    unfold defaultLine? defaultTexts
    cases member.defaultText with
    | none => rfl
    | some text => rfl
  unfold defaultAccessors defaultsTexts
  rw [List.filterMap_eq_flatMap_toList, funext toList_eq]
  cases members.flatMap (defaultTexts context) with
  | nil => exact prints_lines []
  | cons first rest => exact prints_newline.append (prints_lines (first :: rest))

/-! ## Classes -/

theorem written_variables (context : Context) (members : List AnnotationMember) :
    written context (indented (lines (members.map (memberLine context)))) =
      ended (members.flatMap (variableTexts context)) := by
  have writes : Page.Writes context.settings.indentWidth (0 + 1)
      (lines (members.map (memberLine context))) _ := Page.writes_texts _
  rw [Nat.zero_add, List.flatMap_map, List.map_flatMap] at writes
  exact writes.indented.render_eq

theorem written_append_of_settled {context : Context} {first second : List Page.Step}
    {above below : List String} (settled : Page.Settled first)
    (first_eq : written context first = ended above)
    (second_eq : written context second = ended below) :
    written context (first ++ second) = ended (above ++ below) := by
  rw [written, settled.render_append, Page.ended_append, ← first_eq, ← second_eq]
  rfl

/-- A text goes on with the line after it. -/
theorem written_write_line (context : Context) (start rest : String) (steps : List Page.Step) :
    written context (.newline :: .write start :: (line rest ++ steps)) =
      written context (.newline :: (line (start ++ rest) ++ steps)) := by
  simp only [written, Page.render, line, List.cons_append, List.nil_append, Page.run_cons,
    Page.take_write, Page.write_append]

/-- The line that the head of the class leaves open is ended by the variables. -/
theorem written_memberVariables (context : Context) (declaration : AnnotationDeclaration) :
    written context (.newline :: .write (classStart context declaration)
        :: memberVariables context declaration.members) =
      ended (variablesTexts context declaration) := by
  unfold memberVariables variablesTexts
  simp only [List.isEmpty_iff]
  split
  · exact (prints_newline.append (prints_lines [_])).render_eq context.settings.indentWidth
  · let start := classStart context declaration
    let memberLines := declaration.members.map (memberLine context)
    let constructor := context.naming.annotationConstructor declaration.members ++ ";"
    have above_prints := prints_newline.append (prints_lines [start ++ " \x7b", " @private"])
    have below_prints := (prints_lines ["\x7d"]).append prints_newline
      |>.append (prints_lines [constructor])
    have block_settled : Page.Settled (indented (lines memberLines)) :=
      (Page.settled_lines memberLines).indented
    have block_eq := written_append_of_settled block_settled
      (written_variables context declaration.members)
      (below_prints.render_eq context.settings.indentWidth)
    have whole_eq := written_append_of_settled above_prints.settled
      (above_prints.render_eq context.settings.indentWidth) block_eq
    have steps_eq : lines [" \x7b", SupportLibrary.privateLine] ++ indented (lines memberLines)
          ++ line "\x7d" ++ .newline :: line constructor =
        line " \x7b" ++ (line " @private" ++ (indented (lines memberLines)
          ++ (lines ["\x7d"] ++ [.newline] ++ lines [constructor]))) := by
      simp only [lines, List.flatMap_cons, List.flatMap_nil, List.append_nil, List.append_assoc]
      rfl
    rw [steps_eq, written_write_line, List.append_assoc]
    exact whole_eq

/-! ## Annotation types -/

/-- What an annotation type writes above its protocol. -/
def aboveProtocol (context : Context) (declaration : AnnotationDeclaration) : List Page.Step :=
  (opening context (.ofAnnotationType declaration)).steps ++ docLines declaration.doc

/-- What an annotation type writes below its class. -/
def belowClass (context : Context) (declaration : AnnotationDeclaration) : List Page.Step :=
  staticInit context declaration.type declaration.methods
    ++ staticVariables context declaration.type declaration.fields
    ++ prefixAlias context declaration.type declaration.isTopLevel

theorem annotationClass_of_runtime (context : Context) {declaration : AnnotationDeclaration}
    (runtime : declaration.isRuntime = true) :
    annotationClass context declaration =
      .newline :: .write (classStart context declaration)
          :: memberVariables context declaration.members
        ++ (defaultAccessors context declaration.members ++ blockEnd)
        ++ (staticInit context declaration.type declaration.methods
          ++ staticVariables context declaration.type declaration.fields) := by
  rw [annotationClass, runtime, if_pos rfl]
  simp only [List.append_assoc, List.cons_append, List.nil_append]
  rfl

theorem memberVariables_settled (context : Context) (declaration : AnnotationDeclaration) :
    Page.Settled (.newline :: .write (classStart context declaration)
      :: memberVariables context declaration.members) := by
  have start_keepsLevel : Page.KeepsLevel [.newline, .write (classStart context declaration)] :=
    Page.closing_newline.keepsLevel.append (Page.keepsLevel_write _)
  exact (start_keepsLevel.append_closing
    (memberVariables_closing context declaration.members)).settled

theorem annotationEmission_steps_of_runtime {context : Context} {declaration : AnnotationDeclaration}
    (sound : (annotationEmission context declaration).fault = none)
    (runtime : declaration.isRuntime = true) :
    (annotationEmission context declaration).steps =
      aboveProtocol context declaration
        ++ ((annotationProtocol context declaration
          ++ (.newline :: .write (classStart context declaration)
              :: memberVariables context declaration.members
            ++ (defaultAccessors context declaration.members ++ blockEnd)))
        ++ belowClass context declaration) := by
  have opening_sound : (opening context (.ofAnnotationType declaration)).fault = none := by
    rw [← declarationEmission_fault]
    exact sound
  have emission_eq : annotationEmission context declaration = _ :=
    declarationEmission_of_sound opening_sound
  have class_needed : needsClass declaration = true := by
    rw [needsClass, runtime, Bool.true_or]
  rw [emission_eq, body, annotationBody, class_needed, if_pos rfl,
    annotationClass_of_runtime context runtime, aboveProtocol, belowClass]
  simp only [List.append_assoc, List.cons_append]

theorem written_runtime {context : Context} {declaration : AnnotationDeclaration}
    (sound : (annotationEmission context declaration).fault = none)
    (runtime : declaration.isRuntime = true) :
    written context (annotationEmission context declaration).steps =
      written context (aboveProtocol context declaration)
        ++ ended (runtimeTexts context declaration)
        ++ written context (belowClass context declaration) := by
  have above_settled : Page.Settled (aboveProtocol context declaration) :=
    Page.Settled.append (opening_settled context _) (docLines_settled declaration.doc)
  have protocol_prints := prints_annotationProtocol context runtime
  have below_prints := (prints_defaultAccessors context declaration.members).append prints_blockEnd
  have variables_settled := memberVariables_settled context declaration
  have class_eq := written_append_of_settled variables_settled
    (written_memberVariables context declaration)
    (below_prints.render_eq context.settings.indentWidth)
  have middle_eq := written_append_of_settled protocol_prints.settled
    (protocol_prints.render_eq context.settings.indentWidth) class_eq
  have middle_settled := protocol_prints.settled.append
    (variables_settled.append below_prints.settled)
  rw [annotationEmission_steps_of_runtime sound runtime, written, above_settled.render_append,
    middle_settled.render_append, runtimeTexts, List.append_assoc (variablesTexts _ _), ← middle_eq,
    ← String.append_assoc]
  rfl

theorem annotationEmission_eq_of_not_runtime (context : Context) {declaration : AnnotationDeclaration}
    (not_runtime : declaration.isRuntime = false) (members : List AnnotationMember) :
    annotationEmission context { declaration with members } =
      annotationEmission context declaration := by
  have replaced_not_runtime : ({ declaration with members } : AnnotationDeclaration).isRuntime = false :=
    not_runtime
  simp only [annotationEmission, annotationProtocol, needsClass, annotationClass,
    replaced_not_runtime, not_runtime, Bool.false_eq_true, if_false]

/-- The members of an annotation type kept at run time are listed in order, but by name in the
constructor. Those of any other leave no trace. -/
theorem annotationEmission_lists_members (context : Context) (declaration : AnnotationDeclaration)
    (sound : (annotationEmission context declaration).fault = none) :
    (declaration.retention = .runtime →
      written context (annotationEmission context declaration).steps =
          written context (aboveProtocol context declaration)
            ++ ended (runtimeTexts context declaration)
            ++ written context (belowClass context declaration) ∧
        (∃ listed, ListedByName listed declaration.members ∧
          (∀ other, ListedByName other declaration.members → other = listed) ∧
          context.naming.annotationConstructor declaration.members =
            "- (instancetype)init"
              ++ " ".intercalate (listed.mapIdx (constructorPart context))) ∧
        ((declaration.members.map AnnotationMember.name).Nodup →
          ∀ members, members.Perm declaration.members →
            context.naming.annotationConstructor members =
              context.naming.annotationConstructor declaration.members)) ∧
      (declaration.retention ≠ .runtime → ∀ members,
        annotationEmission context { declaration with members } =
          annotationEmission context declaration) := by
  have runtime_iff : declaration.isRuntime = true ↔ declaration.retention = .runtime := by
    rw [AnnotationDeclaration.isRuntime, beq_iff_eq]
  constructor
  · intro runtime
    have byName := Naming.sortedMembers_listedByName declaration.members
    refine ⟨written_runtime sound (runtime_iff.mpr runtime), ⟨_, byName, ?_, ?_⟩, ?_⟩
    · exact fun other other_byName => other_byName.unique byName
    · exact annotationConstructor_eq context declaration.members
    · intro distinct members perm
      rw [annotationConstructor_eq, annotationConstructor_eq,
        Naming.sortedMembers_eq_of_perm distinct perm]
  · intro not_runtime members
    refine annotationEmission_eq_of_not_runtime context ?_ members
    rw [← Bool.not_eq_true, runtime_iff]
    exact not_runtime

/-- An annotation type with a member whose name begins with a reserved word, and one with a default. -/
def bulletin : AnnotationDeclaration where
  type := .declared "org.weather" "Bulletin" .annotationType
  retention := .runtime
  members :=
    [{ name := "newest", type := .ofPrimitive .boolean },
     { name := "area", type := .declared "java.lang" "String" .classType
       defaultText := some "\"sea\"" }]

theorem bulletin_listedByName : ListedByName bulletin.members.reverse bulletin.members := by
  refine ⟨by decide, fun name => ?_⟩
  -- No other member has the name of the first.
  by_cases newest : "newest" = name
  · subst newest
    decide
  · simp [bulletin, List.filter_cons, newest]

/-- The constructor alone takes the second member first. -/
theorem annotationEmission_lists_members_of_bulletin :
    written {} (annotationEmission {} bulletin).steps =
        written {} (aboveProtocol {} bulletin) ++ ended (runtimeTexts {} bulletin)
          ++ written {} (belowClass {} bulletin) ∧
      runtimeTexts {} bulletin =
        ["@protocol OrgWeatherBulletin < JavaLangAnnotationAnnotation >", "",
         "@property (readonly) BOOL newest;", "- (BOOL)newest OBJC_METHOD_FAMILY_NONE;",
         "@property (readonly) NSString *area;", "", "", "@end", "",
         "@interface OrgWeatherBulletin : NSObject < OrgWeatherBulletin > \x7b", " @private",
         "  BOOL newest;", "  NSString *area;", "\x7d", "",
         "- (instancetype)initWithArea:(NSString *)area_ newest:(BOOL)newest_;", "",
         "+ (NSString *)areaDefault;", "", "@end"] ∧
      ({} : Naming).annotationConstructor bulletin.members.reverse =
        "- (instancetype)initWithArea:(NSString *)area_ newest:(BOOL)newest_" ∧
      annotationEmission {} { bulletin with retention := .classFile, members := [] } =
        annotationEmission {} { bulletin with retention := .classFile } := by
  have sound : (annotationEmission {} bulletin).fault = none := by decide
  obtain ⟨text_eq, ⟨listed, _, listed_unique, constructor_eq⟩, permuted⟩ :=
    (annotationEmission_lists_members {} bulletin sound).1 rfl
  rw [← listed_unique _ bulletin_listedByName] at constructor_eq
  refine ⟨text_eq, ?_, ?_, ?_⟩
  · rw [runtimeTexts, variablesTexts, constructor_eq]
    decide +kernel
  · rw [permuted (by decide) _ bulletin.members.reverse_perm, constructor_eq]
    decide
  · exact (annotationEmission_lists_members {} { bulletin with retention := .classFile } sound).2
      (by decide) []

end Header

end HeaderForge
