import HeaderForge.Proofs.Characters
import HeaderForge.Proofs.Splitting
import Mathlib.Data.List.TakeDrop

/-!
# Declarations of methods read back

A declaration of a method begins with a sign and the type of the result, and then has a keyword, a type
and a name for each parameter. Types stand between parentheses, keywords end in a colon, and a space
comes before the next keyword. Types have spaces themselves, but where no name has one of these
characters, no type has a parenthesis. So the declaration can be taken apart again, first at the
parentheses, and nothing of it is lost. Whatever is read in this way is written as it was.
-/

namespace HeaderForge

namespace Text

variable {mark : Char}

/-! ## Cuts -/

/-- The text before a character that stands at its end and nowhere else. -/
def beforeEnd? (mark : Char) (text : String) : Option String :=
  (cutAt mark text).bind fun parts => if parts.2 = "" then some parts.1 else none

theorem cutAt_append (first second : String) (absent : mark ∉ first.toList) :
    cutAt mark (first ++ String.singleton mark ++ second) = some (first, second) := by
  have before_all : ∀ c ∈ first.toList, (c != mark) = true := by
    intro c c_mem
    rw [bne_iff_ne]
    rintro rfl
    exact absent c_mem
  have span_eq : (first ++ String.singleton mark ++ second).toList.span (· != mark) =
      (first.toList, mark :: second.toList) := by
    simp only [String.toList_append, String.toList_singleton, List.append_assoc, List.cons_append,
      List.nil_append, List.span_eq_takeWhile_dropWhile]
    rw [List.takeWhile_append_of_pos before_all, List.dropWhile_append_of_pos before_all]
    simp
  rw [cutAt, span_eq]
  simp

/-- What is cut makes up the text. -/
theorem append_of_cutAt (mark : Char) {text before after : String}
    (cut : cutAt mark text = some (before, after)) :
    before ++ String.singleton mark ++ after = text := by
  rw [cutAt, List.span_eq_takeWhile_dropWhile] at cut
  cases dropped : text.toList.dropWhile (· != mark) with
  | nil => simp [dropped] at cut
  | cons c rest =>
      have c_eq : c = mark := by
        have c_stops := List.head_dropWhile_not (· != mark) (l := text.toList) (by simp [dropped])
        simpa [dropped] using c_stops
      simp only [dropped, Option.some.injEq, Prod.mk.injEq] at cut
      obtain ⟨rfl, rfl⟩ := cut
      have chars_eq := List.takeWhile_append_dropWhile (p := (· != mark)) (l := text.toList)
      rw [dropped, c_eq] at chars_eq
      apply String.toList_inj.mp
      simpa using chars_eq

theorem append_of_beforeEnd? (mark : Char) {text before : String}
    (found : beforeEnd? mark text = some before) : before ++ String.singleton mark = text := by
  obtain ⟨⟨first, rest⟩, cut, kept⟩ := Option.bind_eq_some_iff.mp found
  have made := append_of_cutAt mark cut
  split at kept
  · next rest_empty =>
      obtain rfl : first = before := by simpa using kept
      have rest_eq : rest = "" := rest_empty
      rw [rest_eq, String.append_empty] at made
      exact made
  · cases kept

theorem beforeEnd?_append (text : String) (absent : mark ∉ text.toList) :
    beforeEnd? mark (text ++ String.singleton mark) = some text := by
  have cut_eq := cutAt_append text "" absent
  rw [String.append_empty] at cut_eq
  rw [beforeEnd?, cut_eq]
  rfl

theorem trimEnd_of_not_mem {text : String} (absent : mark ∉ text.toList) :
    trimEnd mark text = text := by
  have kept : text.toList.reverse.dropWhile (· == mark) = text.toList.reverse := by
    cases reversed : text.toList.reverse with
    | nil => rfl
    | cons last before =>
        have last_mem : last ∈ text.toList := by
          rw [← List.mem_reverse, reversed]
          exact List.mem_cons_self
        have last_ne : last ≠ mark := by
          rintro rfl
          exact absent last_mem
        simp [last_ne]
  rw [trimEnd, kept, List.reverse_reverse, String.ofList_toList]

end Text

namespace Naming

open Text (MadeOf cutAt beforeEnd?)

/-! ## Reading -/

/-- The keywords with their colons. -/
def keywordsOf (slots : List Slot) : String :=
  String.join (slots.map fun slot => slot.keyword ++ ":")

/-- A declaration of a method, taken apart. -/
structure SignatureReading where
  /-- The sign. -/
  sign : String
  /-- The type of the result. -/
  result : String
  /-- The name, where there are no parameters; else it is in the keywords. -/
  name : String
  /-- The parts of the parameters. -/
  slots : List Slot
deriving DecidableEq, Repr

/-- Parts of parameters, from the first keyword and the pieces after the opening parentheses. Each piece
has a type, a name and, but for the last piece, the next keyword. -/
def readSlots? (keyword : String) : List String → Option (List Slot)
  | [] => none
  | [piece] => do
    let (type, name) ← cutAt ')' piece
    return [⟨keyword, type, name⟩]
  | piece :: next :: rest => do
    let (type, after) ← cutAt ')' piece
    let (name, following) ← cutAt ' ' after
    let nextKeyword ← beforeEnd? ':' following
    let slots ← readSlots? nextKeyword (next :: rest)
    return ⟨keyword, type, name⟩ :: slots

/-- Takes the declaration of a method apart, first at the opening parentheses. -/
def readSignature? (text : String) : Option SignatureReading :=
  match Text.split '(' text with
  | [start, piece] => do
    let sign ← beforeEnd? ' ' start
    let (result, name) ← cutAt ')' piece
    return ⟨sign, result, name, []⟩
  | start :: piece :: next :: rest => do
    let sign ← beforeEnd? ' ' start
    let (result, after) ← cutAt ')' piece
    let keyword ← beforeEnd? ':' after
    let slots ← readSlots? keyword (next :: rest)
    return ⟨sign, result, "", slots⟩
  | _ => none

namespace SignatureReading

/-- The selector: the keywords with their colons, or the name alone. -/
def selector (reading : SignatureReading) : String := reading.name ++ keywordsOf reading.slots

/-- The declaration as written. -/
def render (reading : SignatureReading) : String :=
  reading.sign ++ " (" ++ reading.result ++ ")" ++ (reading.name ++ renderSlots reading.slots)

/-- The reading has the given sign, result type and selector, and the types and names of the parameters
in order. -/
structure Tells (sign result selector : String) (parameters : List (String × String))
    (reading : SignatureReading) : Prop where
  /-- The sign. -/
  sign : reading.sign = sign
  /-- The type of the result. -/
  result : reading.result = result
  /-- The selector. -/
  selector : reading.selector = selector
  /-- The types and names of the parameters. -/
  parameters : (reading.slots.map fun slot => (slot.type, slot.name)) = parameters

end SignatureReading

theorem renderSlots_cons_cons (slot next : Slot) (rest : List Slot) :
    renderSlots (slot :: next :: rest) = slot.render ++ " " ++ renderSlots (next :: rest) := by
  simp only [renderSlots, List.map_cons, String.intercalate_cons_cons]

/-- Parts that are read are written as they were. -/
theorem renderSlots_of_readSlots? {keyword : String} {pieces : List String} {slots : List Slot}
    (read : readSlots? keyword pieces = some slots) :
    renderSlots slots = keyword ++ ":(" ++ "(".intercalate pieces ∧ slots ≠ [] := by
  induction pieces generalizing keyword slots with
  | nil => cases read
  | cons piece rest ih =>
      cases rest with
      | nil =>
          obtain ⟨⟨type, name⟩, type_cut, slots_eq⟩ := Option.bind_eq_some_iff.mp read
          obtain rfl := Option.some.inj slots_eq
          have piece_eq : type ++ ")" ++ name = piece := Text.append_of_cutAt ')' type_cut
          simp [renderSlots, Slot.render, ← piece_eq, String.append_assoc]
      | cons next rest =>
          obtain ⟨⟨type, after⟩, type_cut, read⟩ := Option.bind_eq_some_iff.mp read
          obtain ⟨⟨name, following⟩, name_cut, read⟩ := Option.bind_eq_some_iff.mp read
          obtain ⟨nextKeyword, keyword_found, read⟩ := Option.bind_eq_some_iff.mp read
          obtain ⟨later, later_read, slots_eq⟩ := Option.bind_eq_some_iff.mp read
          obtain rfl := Option.some.inj slots_eq
          have piece_eq : type ++ ")" ++ after = piece := Text.append_of_cutAt ')' type_cut
          have after_eq : name ++ " " ++ following = after := Text.append_of_cutAt ' ' name_cut
          have following_eq : nextKeyword ++ ":" = following :=
            Text.append_of_beforeEnd? ':' keyword_found
          obtain ⟨later_eq, later_ne⟩ := ih later_read
          obtain ⟨second, others, rfl⟩ := List.exists_cons_of_ne_nil later_ne
          refine ⟨?_, List.cons_ne_nil _ _⟩
          rw [renderSlots_cons_cons, later_eq, Slot.render, String.intercalate_cons_cons, ← piece_eq,
            ← after_eq, ← following_eq]
          simp [String.append_assoc]

/-- A declaration that is read is written as it was. -/
theorem render_of_readSignature? {text : String} {reading : SignatureReading}
    (read : readSignature? text = some reading) : reading.render = text := by
  have joined := Text.intercalate_split '(' text
  unfold readSignature? at read
  split at read
  · next start piece pieces_eq =>
      obtain ⟨sign, sign_found, read⟩ := Option.bind_eq_some_iff.mp read
      obtain ⟨⟨result, name⟩, result_cut, reading_eq⟩ := Option.bind_eq_some_iff.mp read
      obtain rfl := Option.some.inj reading_eq
      have start_eq : sign ++ " " = start := Text.append_of_beforeEnd? ' ' sign_found
      have piece_eq : result ++ ")" ++ name = piece := Text.append_of_cutAt ')' result_cut
      rw [← joined, pieces_eq, ← start_eq, ← piece_eq]
      simp [SignatureReading.render, renderSlots, String.append_assoc]
  · next start piece next rest pieces_eq =>
      obtain ⟨sign, sign_found, read⟩ := Option.bind_eq_some_iff.mp read
      obtain ⟨⟨result, after⟩, result_cut, read⟩ := Option.bind_eq_some_iff.mp read
      obtain ⟨keyword, keyword_found, read⟩ := Option.bind_eq_some_iff.mp read
      obtain ⟨slots, slots_read, reading_eq⟩ := Option.bind_eq_some_iff.mp read
      obtain rfl := Option.some.inj reading_eq
      have start_eq : sign ++ " " = start := Text.append_of_beforeEnd? ' ' sign_found
      have piece_eq : result ++ ")" ++ after = piece := Text.append_of_cutAt ')' result_cut
      have after_eq : keyword ++ ":" = after := Text.append_of_beforeEnd? ':' keyword_found
      rw [← joined, pieces_eq, ← start_eq, ← piece_eq, ← after_eq, SignatureReading.render,
        (renderSlots_of_readSlots? slots_read).1]
      simp [String.append_assoc]
  · cases read

/-! ## Characters that part a declaration -/

/-- The character parts nothing in a declaration: it is no space, colon or parenthesis. -/
def IsPlainChar (c : Char) : Prop := c ≠ ' ' ∧ c ≠ ':' ∧ c ≠ '(' ∧ c ≠ ')'

instance : DecidablePred IsPlainChar := fun c =>
  inferInstanceAs (Decidable (c ≠ ' ' ∧ c ≠ ':' ∧ c ≠ '(' ∧ c ≠ ')'))

/-- The character is no parenthesis. -/
def IsUnbracketed (c : Char) : Prop := c ≠ '(' ∧ c ≠ ')'

instance : DecidablePred IsUnbracketed := fun c =>
  inferInstanceAs (Decidable (c ≠ '(' ∧ c ≠ ')'))

theorem isUnbracketed_of_isPlainChar (c : Char) (plain : IsPlainChar c) : IsUnbracketed c :=
  plain.2.2

theorem hasLetters_isPlainChar : Text.HasLetters IsPlainChar := by
  refine Text.hasLetters_of_high (by decide) fun c high => ⟨?_, ?_, ?_, ?_⟩ <;>
    · rintro rfl
      exact absurd high (by decide)

theorem hasLetters_isUnbracketed : Text.HasLetters IsUnbracketed :=
  fun code letter => isUnbracketed_of_isPlainChar _ (hasLetters_isPlainChar code letter)

/-- The part can be told from what stands around it. -/
structure Slot.IsReadable (slot : Slot) : Prop where
  /-- The keyword has no character that parts a declaration. -/
  keyword : MadeOf IsPlainChar slot.keyword
  /-- The type has no parentheses. -/
  type : MadeOf IsUnbracketed slot.type
  /-- The name has no character that parts a declaration. -/
  name : MadeOf IsPlainChar slot.name

theorem not_mem_of_plain {text : String} (plain : MadeOf IsPlainChar text) :
    ' ' ∉ text.toList ∧ ':' ∉ text.toList ∧ '(' ∉ text.toList ∧ ')' ∉ text.toList :=
  ⟨fun mark_mem => (plain _ mark_mem).1 rfl, fun mark_mem => (plain _ mark_mem).2.1 rfl,
    fun mark_mem => (plain _ mark_mem).2.2.1 rfl, fun mark_mem => (plain _ mark_mem).2.2.2 rfl⟩

theorem not_mem_of_unbracketed {text : String} (unbracketed : MadeOf IsUnbracketed text) :
    '(' ∉ text.toList ∧ ')' ∉ text.toList :=
  ⟨fun mark_mem => (unbracketed _ mark_mem).1 rfl, fun mark_mem => (unbracketed _ mark_mem).2 rfl⟩

/-! ## The pieces of a declaration -/

/-- What stands after the opening parentheses of parts of parameters. -/
def openedPieces : List Slot → List String
  | [] => []
  | [slot] => [slot.type ++ ")" ++ slot.name]
  | slot :: next :: rest =>
    (slot.type ++ ")" ++ (slot.name ++ " " ++ (next.keyword ++ ":"))) :: openedPieces (next :: rest)

theorem Slot.IsReadable.unopened {slot : Slot} (readable : slot.IsReadable) :
    '(' ∉ (slot.keyword ++ ":").toList ∧ '(' ∉ (slot.type ++ ")" ++ slot.name).toList := by
  have keyword_unopened := (not_mem_of_plain readable.keyword).2.2.1
  have name_unopened := (not_mem_of_plain readable.name).2.2.1
  have type_unopened := (not_mem_of_unbracketed readable.type).1
  simp [keyword_unopened, type_unopened, name_unopened]

/-- Parts of parameters after a text fall into pieces at their opening parentheses, and nowhere else. -/
theorem split_append_renderSlots {start : String} {slot : Slot} {rest : List Slot}
    (start_unopened : '(' ∉ start.toList) (readable : ∀ each ∈ slot :: rest, each.IsReadable) :
    Text.split '(' (start ++ renderSlots (slot :: rest)) =
      (start ++ (slot.keyword ++ ":")) :: openedPieces (slot :: rest) := by
  induction rest generalizing start slot with
  | nil =>
      obtain ⟨keyword_unopened, opened_unopened⟩ := (readable slot List.mem_cons_self).unopened
      have text_eq : start ++ renderSlots [slot] =
          start ++ (slot.keyword ++ ":") ++ String.singleton '(' ++ (slot.type ++ ")" ++ slot.name) := by
        simp [renderSlots, Slot.render, String.append_assoc]
      rw [text_eq, Text.split_append_singleton_append, Text.split_of_not_mem opened_unopened,
        Text.split_of_not_mem (by simp_all)]
      rfl
  | cons next rest ih =>
      rw [List.forall_mem_cons] at readable
      obtain ⟨keyword_unopened, opened_unopened⟩ := readable.1.unopened
      have text_eq : start ++ renderSlots (slot :: next :: rest) =
          start ++ (slot.keyword ++ ":") ++ String.singleton '('
            ++ (slot.type ++ ")" ++ slot.name ++ " " ++ renderSlots (next :: rest)) := by
        simp [renderSlots, Slot.render, String.append_assoc]
      rw [text_eq, Text.split_append_singleton_append, Text.split_of_not_mem (by simp_all),
        ih (by simp_all) readable.2, openedPieces]
      simp [String.append_assoc]

theorem exists_cons_openedPieces (slot : Slot) (rest : List Slot) :
    ∃ piece pieces, openedPieces (slot :: rest) = piece :: pieces := by
  cases rest <;> exact ⟨_, _, rfl⟩

/-- The parts of parameters are read back from the pieces. -/
theorem readSlots?_openedPieces {slot : Slot} {rest : List Slot}
    (readable : ∀ each ∈ slot :: rest, each.IsReadable) :
    readSlots? slot.keyword (openedPieces (slot :: rest)) = some (slot :: rest) := by
  induction rest generalizing slot with
  | nil =>
      have slot_readable := readable slot List.mem_cons_self
      have type_cut : cutAt ')' (slot.type ++ ")" ++ slot.name) = some (slot.type, slot.name) :=
        Text.cutAt_append _ _ (not_mem_of_unbracketed slot_readable.type).2
      simp [openedPieces, readSlots?, type_cut]
  | cons next rest ih =>
      rw [List.forall_mem_cons] at readable
      obtain ⟨slot_readable, rest_readable⟩ := readable
      have next_readable := rest_readable next List.mem_cons_self
      have type_cut : cutAt ')' (slot.type ++ ")" ++ (slot.name ++ " " ++ (next.keyword ++ ":"))) =
          some (slot.type, slot.name ++ " " ++ (next.keyword ++ ":")) :=
        Text.cutAt_append _ _ (not_mem_of_unbracketed slot_readable.type).2
      have name_cut : cutAt ' ' (slot.name ++ " " ++ (next.keyword ++ ":")) =
          some (slot.name, next.keyword ++ ":") :=
        Text.cutAt_append _ _ (not_mem_of_plain slot_readable.name).1
      have keyword_end : beforeEnd? ':' (next.keyword ++ ":") = some next.keyword :=
        Text.beforeEnd?_append _ (not_mem_of_plain next_readable.keyword).2.1
      obtain ⟨piece, pieces, pieces_eq⟩ := exists_cons_openedPieces next rest
      have rest_read := ih rest_readable
      rw [pieces_eq] at rest_read
      rw [openedPieces, pieces_eq, readSlots?]
      simp [type_cut, name_cut, keyword_end, rest_read]

/-! ## Whole declarations -/

/-- The first piece of a declaration is the sign, with the space after it. -/
theorem split_start {sign : String} (sign_plain : MadeOf IsPlainChar sign) (result rest : String) :
    Text.split '(' (sign ++ " (" ++ result ++ ")" ++ rest) =
      (sign ++ " ") :: Text.split '(' (result ++ ")" ++ rest) := by
  have sign_unopened : '(' ∉ (sign ++ " ").toList := by
    simp [(not_mem_of_plain sign_plain).2.2.1]
  have text_eq : sign ++ " (" ++ result ++ ")" ++ rest =
      sign ++ " " ++ String.singleton '(' ++ (result ++ ")" ++ rest) := by
    simp [String.append_assoc]
  rw [text_eq, Text.split_append_singleton_append, Text.split_of_not_mem sign_unopened]
  rfl

/-- A declaration without parameters is taken apart into its sign, result type and name. -/
theorem readSignature?_of_name {sign result name : String} (sign_plain : MadeOf IsPlainChar sign)
    (result_unbracketed : MadeOf IsUnbracketed result) (name_plain : MadeOf IsPlainChar name) :
    readSignature? (sign ++ " (" ++ result ++ ")" ++ name) = some ⟨sign, result, name, []⟩ := by
  obtain ⟨result_unopened, result_unclosed⟩ := not_mem_of_unbracketed result_unbracketed
  have unopened : '(' ∉ (result ++ ")" ++ name).toList := by
    simp [result_unopened, (not_mem_of_plain name_plain).2.2.1]
  have sign_end : beforeEnd? ' ' (sign ++ " ") = some sign :=
    Text.beforeEnd?_append _ (not_mem_of_plain sign_plain).1
  have result_cut : cutAt ')' (result ++ ")" ++ name) = some (result, name) :=
    Text.cutAt_append _ _ result_unclosed
  rw [readSignature?, split_start sign_plain, Text.split_of_not_mem unopened]
  simp [sign_end, result_cut]

/-- A declaration with parameters is taken apart into its sign, result type and parts. -/
theorem readSignature?_of_slots {sign result : String} {slots : List Slot} (nonempty : slots ≠ [])
    (sign_plain : MadeOf IsPlainChar sign) (result_unbracketed : MadeOf IsUnbracketed result)
    (readable : ∀ slot ∈ slots, slot.IsReadable) :
    readSignature? (sign ++ " (" ++ result ++ ")" ++ renderSlots slots) =
      some ⟨sign, result, "", slots⟩ := by
  obtain ⟨slot, rest, rfl⟩ := List.exists_cons_of_ne_nil nonempty
  have slot_readable := readable slot List.mem_cons_self
  obtain ⟨result_unopened, result_unclosed⟩ := not_mem_of_unbracketed result_unbracketed
  have start_unopened : '(' ∉ (result ++ ")").toList := by simp [result_unopened]
  have sign_end : beforeEnd? ' ' (sign ++ " ") = some sign :=
    Text.beforeEnd?_append _ (not_mem_of_plain sign_plain).1
  have result_cut : cutAt ')' (result ++ ")" ++ (slot.keyword ++ ":")) =
      some (result, slot.keyword ++ ":") :=
    Text.cutAt_append _ _ result_unclosed
  have keyword_end : beforeEnd? ':' (slot.keyword ++ ":") = some slot.keyword :=
    Text.beforeEnd?_append _ (not_mem_of_plain slot_readable.keyword).2.1
  have slots_read := readSlots?_openedPieces readable
  obtain ⟨piece, pieces, pieces_eq⟩ := exists_cons_openedPieces slot rest
  rw [readSignature?, split_start sign_plain, split_append_renderSlots start_unopened readable,
    pieces_eq]
  rw [pieces_eq] at slots_read
  simp [sign_end, result_cut, keyword_end, slots_read]

/-! ## The parts of methods -/

/-- Parts of parameters whose first keyword continues a name. -/
def continuing (name : String) : List Slot → List Slot
  | [] => []
  | first :: rest => { first with keyword := name ++ first.keyword } :: rest

theorem renderSlots_continuing (name : String) {slots : List Slot} (nonempty : slots ≠ []) :
    renderSlots (continuing name slots) = name ++ renderSlots slots := by
  obtain ⟨first, rest, rfl⟩ := List.exists_cons_of_ne_nil nonempty
  cases rest <;> simp [continuing, renderSlots, Slot.render, String.append_assoc]

theorem readable_continuing {name : String} {slots : List Slot} (name_plain : MadeOf IsPlainChar name)
    (readable : ∀ slot ∈ slots, slot.IsReadable) :
    ∀ slot ∈ continuing name slots, slot.IsReadable := by
  cases slots with
  | nil => exact readable
  | cons first rest =>
      rw [List.forall_mem_cons] at readable
      rw [continuing, List.forall_mem_cons]
      obtain ⟨⟨keyword_plain, type_unbracketed, first_plain⟩, rest_readable⟩ := readable
      exact ⟨⟨(Text.madeOf_append _ _).mpr ⟨name_plain, keyword_plain⟩, type_unbracketed, first_plain⟩,
        rest_readable⟩

/-- The types and names of the parameters. -/
def shownParameters (naming : Naming) (parameters : List Parameter) : List (String × String) :=
  parameters.map fun parameter => (naming.variableType parameter.type, parameter.name)

/-- A declaration is taken apart, whether parts of parameters follow the name or not. -/
theorem exists_reading {sign result name : String} {slots : List Slot}
    (sign_plain : MadeOf IsPlainChar sign) (result_unbracketed : MadeOf IsUnbracketed result)
    (name_plain : MadeOf IsPlainChar name) (readable : ∀ slot ∈ slots, slot.IsReadable) :
    ∃ reading,
      readSignature? (sign ++ " (" ++ result ++ ")" ++ (name ++ renderSlots slots)) = some reading ∧
        reading.Tells sign result (name ++ keywordsOf slots)
          (slots.map fun slot => (slot.type, slot.name)) := by
  cases slots with
  | nil =>
      refine ⟨⟨sign, result, name, []⟩, ?_, ⟨rfl, rfl, rfl, rfl⟩⟩
      have no_slots : name ++ renderSlots [] = name := String.append_empty
      rw [no_slots]
      exact readSignature?_of_name sign_plain result_unbracketed name_plain
  | cons first rest =>
      -- the name cannot be told from the first keyword, so the keyword is read with it
      refine ⟨⟨sign, result, "", continuing name (first :: rest)⟩, ?_, ⟨rfl, rfl, ?_, rfl⟩⟩
      · rw [← renderSlots_continuing name (List.cons_ne_nil first rest)]
        exact readSignature?_of_slots (List.cons_ne_nil _ _) sign_plain result_unbracketed
          (readable_continuing name_plain readable)
      · simp [SignatureReading.selector, keywordsOf, continuing, String.join_cons,
          String.append_assoc]

theorem unbracketed_variableType {naming : Naming} {type : TypeRef}
    (spelled : naming.Spells IsPlainChar type) :
    MadeOf IsUnbracketed (naming.variableType type) :=
  madeOf_variableType hasLetters_isUnbracketed (by decide)
    (spelled.mono isUnbracketed_of_isPlainChar)

/-- The parameter has a name, and a type made from names, without characters that part a declaration. -/
structure IsReadableParameter (naming : Naming) (parameter : Parameter) : Prop where
  /-- The name. -/
  name : MadeOf IsPlainChar parameter.name
  /-- What the type's name is made from. -/
  type : naming.Spells IsPlainChar parameter.type

theorem readable_parameterSlot {naming : Naming} {lead : String} {parameter : Parameter}
    (lead_plain : MadeOf IsPlainChar lead) (readable : naming.IsReadableParameter parameter) :
    (naming.parameterSlot lead parameter).IsReadable :=
  ⟨(Text.madeOf_append _ _).mpr
      ⟨lead_plain, madeOf_typeKeyword hasLetters_isPlainChar readable.type⟩,
    unbracketed_variableType readable.type, readable.name⟩

theorem readable_parameterSlots {naming : Naming} {parameters : List Parameter}
    (readable : ∀ parameter ∈ parameters, naming.IsReadableParameter parameter) :
    ∀ slot ∈ naming.parameterSlots parameters, slot.IsReadable := by
  cases parameters with
  | nil => simp [parameterSlots]
  | cons first rest =>
      rw [List.forall_mem_cons] at readable
      rw [parameterSlots, List.forall_mem_cons, List.forall_mem_map]
      exact ⟨readable_parameterSlot (by decide) readable.1, fun parameter parameter_mem =>
        readable_parameterSlot (by decide) (readable.2 parameter parameter_mem)⟩

theorem shown_parameterSlots (naming : Naming) (parameters : List Parameter) :
    ((naming.parameterSlots parameters).map fun slot => (slot.type, slot.name)) =
      naming.shownParameters parameters := by
  cases parameters with
  | nil => rfl
  | cons first rest => simp [parameterSlots, shownParameters, parameterSlot]

/-! ## Selectors -/

/-- The text is a selector for a number of parameters: a word, or keywords that each end in a colon. -/
inductive IsSelector : String → Nat → Prop
  /-- A selector without parameters. -/
  | word {name : String} (plain : MadeOf IsPlainChar name) : IsSelector name 0
  /-- A selector with a keyword for each parameter. -/
  | keywords {words : List String} (nonempty : words ≠ [])
      (each : ∀ word ∈ words, word ≠ "" ∧ MadeOf IsPlainChar word) :
      IsSelector (String.join (words.map fun word => word ++ ":")) words.length

theorem selectorKeywords_join {words : List String}
    (each : ∀ word ∈ words, word ≠ "" ∧ MadeOf IsPlainChar word) :
    selectorKeywords (String.join (words.map fun word => word ++ ":")) = words := by
  induction words with
  | nil => rfl
  | cons word rest ih =>
      rw [List.forall_mem_cons] at each
      obtain ⟨⟨word_filled, word_plain⟩, rest_each⟩ := each
      have text_eq : String.join ((word :: rest).map fun word => word ++ ":") =
          word ++ String.singleton ':' ++ String.join (rest.map fun word => word ++ ":") := by
        simp [String.join_cons]
      have rest_eq := ih rest_each
      rw [selectorKeywords] at rest_eq ⊢
      rw [text_eq, Text.split_append_singleton_append,
        Text.split_of_not_mem (not_mem_of_plain word_plain).2.1, List.filter_append, rest_eq]
      simp [word_filled]

/-- The keywords of a selector for parameters are plain, one for each parameter, and spell it. -/
theorem IsSelector.keywords_spell {selector : String} {count : Nat}
    (is_selector : IsSelector selector count) (some_parameter : count ≠ 0) :
    (selectorKeywords selector).length = count ∧
      (∀ word ∈ selectorKeywords selector, MadeOf IsPlainChar word) ∧
      String.join ((selectorKeywords selector).map fun word => word ++ ":") = selector := by
  cases is_selector with
  | word plain => exact absurd rfl some_parameter
  | keywords nonempty each =>
      rw [selectorKeywords_join each]
      exact ⟨rfl, fun word word_mem => (each word word_mem).2, rfl⟩

theorem IsSelector.plain {selector : String} (is_selector : IsSelector selector 0) :
    MadeOf IsPlainChar selector := by
  generalize count_eq : 0 = count at is_selector
  cases is_selector with
  | word plain => exact plain
  | keywords nonempty each => exact absurd (List.length_eq_zero_iff.mp count_eq.symm) nonempty

theorem mappedSlots_eq_map_zip (naming : Naming) (selector : String) (parameters : List Parameter) :
    naming.mappedSlots selector parameters =
      ((selectorKeywords selector).zip parameters).map fun pair =>
        ⟨pair.1, naming.variableType pair.2.type, pair.2.name⟩ := by
  rw [List.map_zip_eq_zipWith]
  rfl

theorem readable_mappedSlots {naming : Naming} {selector : String} {parameters : List Parameter}
    (keywords_plain : ∀ word ∈ selectorKeywords selector, MadeOf IsPlainChar word)
    (readable : ∀ parameter ∈ parameters, naming.IsReadableParameter parameter) :
    ∀ slot ∈ naming.mappedSlots selector parameters, slot.IsReadable := by
  rw [mappedSlots_eq_map_zip, List.forall_mem_map]
  rintro ⟨keyword, parameter⟩ pair_mem
  obtain ⟨keyword_mem, parameter_mem⟩ := List.of_mem_zip pair_mem
  have parameter_readable := readable parameter parameter_mem
  exact ⟨keywords_plain keyword keyword_mem, unbracketed_variableType parameter_readable.type,
    parameter_readable.name⟩

section Mapped

variable (naming : Naming) {selector : String} {parameters : List Parameter}
  (each_paired : (selectorKeywords selector).length = parameters.length)
include each_paired

theorem keywordsOf_mappedSlots :
    keywordsOf (naming.mappedSlots selector parameters) =
      String.join ((selectorKeywords selector).map fun word => word ++ ":") := by
  have keywords_eq := List.map_fst_zip (Nat.le_of_eq each_paired)
  rw [keywordsOf, mappedSlots_eq_map_zip, List.map_map]
  conv_rhs => rw [← keywords_eq, List.map_map]
  rfl

theorem shown_mappedSlots :
    ((naming.mappedSlots selector parameters).map fun slot => (slot.type, slot.name)) =
      naming.shownParameters parameters := by
  have parameters_eq := List.map_snd_zip (Nat.le_of_eq each_paired.symm)
  rw [shownParameters, mappedSlots_eq_map_zip, List.map_map]
  conv_rhs => rw [← parameters_eq, List.map_map]
  rfl

end Mapped

/-! ## Declarations read back -/

/-- The names and types of the method have no characters that part a declaration. -/
structure IsReadable (naming : Naming) (signature : Signature) : Prop where
  /-- The name. -/
  name : MadeOf IsPlainChar signature.name
  /-- What the result type's name is made from. -/
  result : naming.Spells IsPlainChar signature.returnType
  /-- The parameters. -/
  parameters : ∀ parameter ∈ signature.parameters, naming.IsReadableParameter parameter

theorem plain_methodSign (signature : Signature) : MadeOf IsPlainChar (methodSign signature) := by
  unfold methodSign
  split <;> decide

/-- A declaration with a given selector is taken apart. Without parameters the selector is one word. -/
theorem exists_reading_mapped {naming : Naming} {signature : Signature} {selector : String}
    (readable : naming.IsReadable signature)
    (is_selector : IsSelector selector signature.parameters.length) :
    ∃ reading, readSignature? (naming.mappedDeclaration signature selector) = some reading ∧
      reading.Tells (methodSign signature) (naming.variableType signature.returnType) selector
        (naming.shownParameters signature.parameters) := by
  have sign_plain := plain_methodSign signature
  have result_unbracketed := unbracketed_variableType readable.result
  rw [mappedDeclaration, methodStart]
  by_cases empty : signature.parameters = []
  · rw [empty, List.length_nil] at is_selector
    have selector_plain := is_selector.plain
    have trimmed : Text.trimEnd ':' selector = selector :=
      Text.trimEnd_of_not_mem (not_mem_of_plain selector_plain).2.1
    have no_slots : ∀ slot ∈ ([] : List Slot), slot.IsReadable := by simp
    have read := exists_reading sign_plain result_unbracketed selector_plain no_slots
    rw [empty, List.isEmpty_nil, if_pos rfl, trimmed]
    simpa [renderSlots, keywordsOf, shownParameters] using read
  · obtain ⟨each_paired, keywords_plain, spelled⟩ :=
      is_selector.keywords_spell (by simpa using empty)
    have no_name : MadeOf IsPlainChar "" := by decide
    have read := exists_reading sign_plain result_unbracketed no_name
      (readable_mappedSlots keywords_plain readable.parameters)
    rw [keywordsOf_mappedSlots naming each_paired, spelled, shown_mappedSlots naming each_paired,
      String.empty_append, String.empty_append] at read
    rw [if_neg (by simpa using empty)]
    exact read

/-- The declarations of methods, also with a given selector, and of constructors tell the sign, the
result type, the selector and the parameters, and reading loses nothing. -/
theorem readSignature?_tells (naming : Naming) {signature : Signature}
    (readable : naming.IsReadable signature) :
    let sign := if signature.modifiers.isStatic then "+" else "-"
    let result := naming.variableType signature.returnType
    let keywords := keywordsOf (naming.parameterSlots signature.parameters)
    let parameters := signature.parameters.map fun parameter =>
      (naming.variableType parameter.type, parameter.name)
    (∃ reading, readSignature? (naming.methodDeclaration signature) = some reading ∧
        reading.Tells sign result (signature.name ++ keywords) parameters) ∧
      (∃ reading, readSignature? (naming.constructorDeclaration signature) = some reading ∧
        reading.Tells "-" "instancetype" ("init" ++ keywords) parameters) ∧
      (∀ selector, IsSelector selector signature.parameters.length →
        ∃ reading, readSignature? (naming.mappedDeclaration signature selector) = some reading ∧
          reading.Tells sign result selector parameters) ∧
      ∀ text reading, readSignature? text = some reading → reading.render = text := by
  intro sign result keywords parameters
  have slots_readable := readable_parameterSlots readable.parameters
  have shown_eq := shown_parameterSlots naming signature.parameters
  refine ⟨?_, ?_, fun selector is_selector => exists_reading_mapped readable is_selector,
    fun text reading read => render_of_readSignature? read⟩
  · have read := exists_reading (plain_methodSign signature)
      (unbracketed_variableType readable.result) readable.name slots_readable
    rw [shown_eq, ← String.append_assoc] at read
    exact read
  · have minus_plain : MadeOf IsPlainChar "-" := by decide
    have result_unbracketed : MadeOf IsUnbracketed "instancetype" := by decide
    have init_plain : MadeOf IsPlainChar "init" := by decide
    have read := exists_reading minus_plain result_unbracketed init_plain slots_readable
    rw [shown_eq, ← String.append_assoc] at read
    exact read

/-- A method whose parameters have a type with a space, an array type and a protocol. -/
def transfer : Signature :=
  let ofGraph (name : String) (sort : TypeSort) := TypeRef.declared "org.graph" name sort
  { name := "transfer"
    modifiers := { isStatic := true }
    returnType := ofGraph "Node" .classType
    parameters :=
      [{ name := "limit", type := .ofPrimitive .long },
       { name := "owners", type := .arrayOf (ofGraph "Node.Owner" .classType) },
       { name := "told", type := ofGraph "Listener" .interfaceType }] }

theorem readSignature?_tells_of_transfer :
    let naming : Naming := { prefixes := [⟨"org.graph", "OG"⟩] }
    let parameters :=
      [("long long", "limit"), ("IOSObjectArray *", "owners"), ("id<OGListener>", "told")]
    (∃ reading, readSignature? (naming.methodDeclaration transfer) = some reading ∧
        reading.Tells "+" "OGNode *" "transferWithLong:withOGNode_OwnerArray:withOGListener:"
          parameters) ∧
      (∃ reading, readSignature? (naming.constructorDeclaration transfer) = some reading ∧
        reading.Tells "-" "instancetype" "initWithLong:withOGNode_OwnerArray:withOGListener:"
          parameters) ∧
      ∃ reading, readSignature? (naming.mappedDeclaration transfer "upTo:from:telling:") =
          some reading ∧
        reading.Tells "+" "OGNode *" "upTo:from:telling:" parameters := by
  intro naming parameters
  have parameters_plain : ∀ parameter ∈ transfer.parameters, MadeOf IsPlainChar parameter.name ∧
      naming.Spells IsPlainChar parameter.type := by decide
  have readable : naming.IsReadable transfer :=
    ⟨by decide, by decide, fun parameter parameter_mem =>
      ⟨(parameters_plain parameter parameter_mem).1, (parameters_plain parameter parameter_mem).2⟩⟩
  have is_selector : IsSelector "upTo:from:telling:" 3 :=
    @IsSelector.keywords ["upTo", "from", "telling"] (by decide) (by decide)
  obtain ⟨⟨method, method_read, method_tells⟩, ⟨constructor, constructor_read, constructor_tells⟩,
    mapped_tells, -⟩ := readSignature?_tells naming readable
  obtain ⟨mapped, mapped_read, mapped_tells⟩ := mapped_tells _ is_selector
  refine ⟨⟨method, method_read, ?_⟩, ⟨constructor, constructor_read, ?_⟩, ⟨mapped, mapped_read, ?_⟩⟩
  · exact ⟨method_tells.sign, method_tells.result.trans (by decide),
      method_tells.selector.trans (by decide), method_tells.parameters.trans (by decide)⟩
  · exact ⟨constructor_tells.sign, constructor_tells.result,
      constructor_tells.selector.trans (by decide), constructor_tells.parameters.trans (by decide)⟩
  · exact ⟨mapped_tells.sign, mapped_tells.result.trans (by decide), mapped_tells.selector,
      mapped_tells.parameters.trans (by decide)⟩

end Naming

end HeaderForge
