import HeaderForge.Proofs.Paths.Components

/-!
# File names and extensions

A path with another extension differs from the path in its last component alone. It leads upwards only
if the path does, or if its last name is two dots and an extension: without the extension the two dots
remain.
-/

namespace HeaderForge.Path

/-! ## File names -/

theorem exists_idle_of_trimIdle (parts : List String) :
    ∃ idles, parts = trimIdle parts ++ idles ∧ ∀ idle ∈ idles, isIdle idle = true := by
  refine ⟨(parts.reverse.takeWhile isIdle).reverse, ?_, ?_⟩
  · rw [trimIdle, ← List.reverse_append, List.takeWhile_append_dropWhile, List.reverse_reverse]
  · intro idle idle_mem
    exact List.all_eq_true.mp List.all_takeWhile idle (List.mem_reverse.mp idle_mem)

/-- The file name of a path is the last of its names that means something. -/
theorem names_of_fileName? {path name : String} {before : List String}
    (found : fileName? path = some (before, name)) :
    (∃ idles, names path = before ++ name :: idles ∧ ∀ idle ∈ idles, isIdle idle = true) ∧
      isIdle name = false ∧ name ≠ ".." := by
  obtain ⟨idles, names_eq, idle⟩ := exists_idle_of_trimIdle (names path)
  cases last_eq : (trimIdle (names path)).getLast? with
  | none => simp [fileName?, last_eq] at found
  | some last =>
      obtain ⟨start, trimmed_eq⟩ := List.getLast?_eq_some_iff.mp last_eq
      have last_not_idle : isIdle last = false := by
        have first_eq : ((names path).reverse.dropWhile isIdle).head? = some last := by
          rw [← last_eq, trimIdle, List.getLast?_reverse]
        have not_idle := List.head?_dropWhile_not isIdle (names path).reverse
        rw [first_eq] at not_idle
        exact not_idle
      have found_iff : last ≠ ".." ∧ start = before ∧ last = name := by
        simpa [fileName?, trimmed_eq] using found
      obtain ⟨not_parent, rfl, rfl⟩ := found_iff
      refine ⟨⟨idles, ?_, idle⟩, last_not_idle, not_parent⟩
      rw [names_eq, trimmed_eq, List.append_assoc, List.singleton_append]

theorem fileName?_of_names {path name : String} {before : List String}
    (names_eq : names path = before ++ [name]) (not_idle : isIdle name = false)
    (not_parent : name ≠ "..") : fileName? path = some (before, name) := by
  have trimmed_eq : trimIdle (names path) = before ++ [name] := by
    rw [trimIdle, names_eq, List.reverse_append, List.reverse_singleton, List.singleton_append,
      List.dropWhile_cons_of_neg (by simpa using not_idle), List.reverse_cons, List.reverse_reverse]
  simp [fileName?, trimmed_eq, not_parent]

theorem lead_append_cons {name other : String} (not_idle : isIdle name = false)
    (other_not_idle : isIdle other = false) (before more others : List String) :
    lead (before ++ name :: more) = lead (before ++ other :: others) := by
  cases before with
  | nil =>
      simp only [isIdle, Bool.or_eq_false_iff, beq_eq_false_iff_ne] at not_idle other_not_idle
      simp [lead, not_idle, other_not_idle]
  | cons first rest => simp [lead]

/-- A path with a name at its end leads where its other names lead, and from there to that name. -/
theorem components_of_names {path name : String} {before idles : List String}
    (names_eq : names path = before ++ name :: idles) (not_idle : isIdle name = false)
    (idle : ∀ idle ∈ idles, isIdle idle = true) :
    components path =
      lead (before ++ [name]) ++ before.filterMap Component.ofName?
        ++ [if name = ".." then .parent else .normal name] := by
  have idles_eq : idles.filterMap Component.ofName? = [] :=
    List.filterMap_eq_nil_iff.mpr fun other other_mem => ofName?_of_idle (idle other other_mem)
  rw [components_eq, names_eq, lead_append_cons not_idle not_idle before idles [],
    List.filterMap_append, List.filterMap_cons_some (ofName?_of_not_idle not_idle), idles_eq,
    List.append_assoc]

/-! ## Extensions -/

/-- A file name is its stem, or its stem and an extension without dots. -/
theorem stemOf_eq_or (name : String) :
    stemOf name = name ∨
      ∃ extension, '.' ∉ extension.toList ∧ name = stemOf name ++ "." ++ extension := by
  have joined : ".".intercalate (Text.split '.' name) = name := Text.intercalate_split '.' name
  unfold stemOf
  cases reverse_eq : (Text.split '.' name).reverse with
  | nil => exact .inl rfl
  | cons extension before =>
      have split_eq : Text.split '.' name = before.reverse ++ [extension] := by
        rw [← List.reverse_cons, ← reverse_eq, List.reverse_reverse]
      by_cases empty : ".".intercalate before.reverse = ""
      · simp [empty]
      · have before_ne : before.reverse ≠ [] := by
          intro nil_eq
          rw [nil_eq] at empty
          exact empty rfl
        have extension_mem : extension ∈ Text.split '.' name := by simp [split_eq]
        refine .inr ⟨extension, Text.not_mem_of_mem_split extension_mem, ?_⟩
        simp only [if_neg empty]
        rw [← joined, split_eq,
          String.intercalate_append_of_ne_nil before_ne (List.cons_ne_nil extension []),
          String.intercalate_singleton]

theorem stemOf_ne_empty {name : String} (nonempty : name ≠ "") : stemOf name ≠ "" := by
  unfold stemOf
  split
  · dsimp only
    split
    · exact nonempty
    · next stem_ne => exact stem_ne
  · exact nonempty

theorem slash_not_mem_stemOf {name : String} (whole : '/' ∉ name.toList) :
    '/' ∉ (stemOf name).toList := by
  rcases stemOf_eq_or name with same | ⟨extension, -, name_eq⟩
  · rwa [same]
  · intro slash_mem
    apply whole
    rw [name_eq]
    simp [slash_mem]

/-- The last name of the path is two dots and an extension. -/
def EndsInDotsAndExtension (path : String) : Prop :=
  ∃ before extension, names path = before ++ [".." ++ extension] ∧
    extension ≠ "" ∧ '.' ∉ extension.toList

theorem stemOf_dots_append {extension : String} (no_dot : '.' ∉ extension.toList) :
    stemOf (".." ++ extension) = "." := by
  have split_eq : Text.split '.' (".." ++ extension) = ["", "", extension] := by
    have name_eq : ".." ++ extension = "" ++ "." ++ ("" ++ "." ++ extension) := by
      apply String.toList_inj.mp
      simp
    rw [name_eq]
    have dot_eq : "." = String.singleton '.' := rfl
    rw [dot_eq, Text.split_append_singleton_append, Text.split_append_singleton_append,
      Text.split_of_not_mem no_dot]
    rfl
  rw [stemOf, split_eq]
  rfl

theorem dots_append_not_idle (extension : String) : isIdle (".." ++ extension) = false := by
  simp [isIdle, ← String.toList_inj]

theorem dots_append_ne_dots {extension : String} (nonempty : extension ≠ "") :
    ".." ++ extension ≠ ".." := by
  simpa using nonempty

/-- A path of several names ends with a slash and the last of them. -/
theorem eq_append_last {path last : String} {before : List String}
    (names_eq : names path = before ++ [last]) (nonempty : before ≠ []) :
    path = "/".intercalate before ++ "/" ++ last := by
  rw [← intercalate_names path, names_eq,
    String.intercalate_append_of_ne_nil nonempty (List.cons_ne_nil last []),
    String.intercalate_singleton]

theorem endsWith_of_names {path last : String} {before : List String}
    (names_eq : names path = before ++ [last]) : Text.endsWith path last = true := by
  rw [Text.endsWith, List.isSuffixOf_iff_suffix]
  by_cases nonempty : before = []
  · rw [← intercalate_names path, names_eq, nonempty]
    simp
  · rw [eq_append_last names_eq nonempty, String.toList_append]
    exact List.suffix_append _ _

/-- Behind its file name a path can only go on with slashes and dots. -/
theorem getLast?_of_idle {path idle : String} {before : List String}
    (names_eq : names path = before ++ [idle]) (nonempty : before ≠ [])
    (is_idle : isIdle idle = true) :
    path.toList.getLast? = some '/' ∨ path.toList.getLast? = some '.' := by
  have path_eq := eq_append_last names_eq nonempty
  have mute : idle = "" ∨ idle = "." := by simpa [isIdle] using is_idle
  rcases mute with rfl | rfl
  · left
    simp [path_eq]
  · right
    simp [path_eq]

/-- Nothing stands behind a file name whose extension ends the path. -/
theorem idles_eq_nil {path name extension : String} {before idles : List String}
    (names_eq : names path = before ++ name :: idles) (idle : ∀ idle ∈ idles, isIdle idle = true)
    (ending : extension.toList <:+ path.toList) (nonempty : extension ≠ "")
    (no_dot : '.' ∉ extension.toList) (no_slash : '/' ∉ extension.toList) : idles = [] := by
  obtain ⟨front, path_eq⟩ := ending
  have last_eq : path.toList.getLast? = extension.toList.getLast? := by
    rw [← path_eq, List.getLast?_append, List.getLast?_eq_some_getLast (by simpa using nonempty),
      Option.some_or]
  rcases List.eq_nil_or_concat idles with nil_eq | ⟨init, final, rfl⟩
  · exact nil_eq
  · have behind : names path = (before ++ name :: init) ++ [final] := by simp [names_eq]
    rcases getLast?_of_idle behind (by simp) (idle final (by simp)) with slash | dot
    · exact absurd (List.mem_of_getLast? (last_eq ▸ slash)) no_slash
    · exact absurd (List.mem_of_getLast? (last_eq ▸ dot)) no_dot

/-- A name that is taken apart at its last dot leaves two dots exactly if it is two dots and an
extension, with nothing behind it. -/
theorem endsInDots_iff {path name : String} {before : List String}
    (found : fileName? path = some (before, name)) :
    endsInDots path name = true ↔ EndsInDotsAndExtension path := by
  obtain ⟨⟨idles, names_eq, idle⟩, not_idle, not_parent⟩ := names_of_fileName? found
  constructor
  · intro dots
    obtain ⟨stem_eq, ending⟩ : stemOf name = "." ∧ Text.endsWith path name = true := by
      simpa [endsInDots] using dots
    rcases stemOf_eq_or name with same | ⟨extension, no_dot, name_eq⟩
    · rw [← same, stem_eq] at not_idle
      cases not_idle
    · rw [stem_eq] at name_eq
      have name_dots : name = ".." ++ extension := name_eq
      have nonempty : extension ≠ "" := by
        rintro rfl
        exact not_parent name_dots
      have no_slash : '/' ∉ extension.toList := by
        have name_mem : name ∈ names path := by simp [names_eq]
        simpa [name_dots] using not_mem_of_mem_names name_mem
      have extension_ends : extension.toList <:+ path.toList := by
        have extension_suffix : extension.toList <:+ name.toList := by
          rw [name_dots, String.toList_append]
          exact List.suffix_append _ _
        exact extension_suffix.trans (List.isSuffixOf_iff_suffix.mp ending)
      have nothing_behind := idles_eq_nil names_eq idle extension_ends nonempty no_dot no_slash
      exact ⟨before, extension, by rw [names_eq, name_dots, nothing_behind], nonempty, no_dot⟩
  · rintro ⟨other, extension, other_eq, nonempty, no_dot⟩
    have refound := fileName?_of_names other_eq (dots_append_not_idle extension)
      (dots_append_ne_dots nonempty)
    obtain ⟨rfl, rfl⟩ : other = before ∧ ".." ++ extension = name := by
      simpa [found, eq_comm] using refound
    simp [endsInDots, stemOf_dots_append no_dot, endsWith_of_names other_eq]

section WithExtension

variable {extension path name : String} {before : List String}

/-- The last name of a path once it has another extension. -/
def lastWithExtension (extension path name : String) : String :=
  if endsInDots path name then ".." else stemOf name ++ "." ++ extension

/-- Names of three characters are neither empty nor dots alone. -/
theorem not_idle_of_length {long : String} (three : 3 ≤ long.toList.length) :
    isIdle long = false ∧ long ≠ ".." := by
  have ne_of_short : ∀ short : String, short.toList.length < 3 → long ≠ short := by
    rintro short length_lt rfl
    omega
  simp [isIdle, ne_of_short "" (by decide), ne_of_short "." (by decide),
    ne_of_short ".." (by decide)]

theorem three_le_length_stemOf (name_not_idle : isIdle name = false) (nonempty : extension ≠ "") :
    3 ≤ (stemOf name ++ "." ++ extension).toList.length := by
  have name_ne : name ≠ "" := by
    rintro rfl
    cases name_not_idle
  have stem_pos : 0 < (stemOf name).toList.length :=
    List.length_pos_iff.mpr (by simpa using stemOf_ne_empty name_ne)
  have extension_pos : 0 < extension.toList.length :=
    List.length_pos_iff.mpr (by simpa using nonempty)
  simp only [String.toList_append, List.length_append]
  have dot_length : ".".toList.length = 1 := rfl
  omega

theorem lastWithExtension_not_idle (name_not_idle : isIdle name = false)
    (nonempty : extension ≠ "") : isIdle (lastWithExtension extension path name) = false := by
  unfold lastWithExtension
  split
  · rfl
  · exact (not_idle_of_length (three_le_length_stemOf name_not_idle nonempty)).1

theorem names_withExtension (found : fileName? path = some (before, name))
    (whole : '/' ∉ extension.toList) :
    names (withExtension extension path) = before ++ [lastWithExtension extension path name] := by
  obtain ⟨⟨idles, names_eq, -⟩, -, -⟩ := names_of_fileName? found
  have name_mem : name ∈ names path := by simp [names_eq]
  have last_whole : '/' ∉ (lastWithExtension extension path name).toList := by
    unfold lastWithExtension
    split
    · simp
    · simp [slash_not_mem_stemOf (not_mem_of_mem_names name_mem), whole]
  simp only [withExtension, found]
  rw [← lastWithExtension]
  apply names_intercalate (List.append_ne_nil_of_right_ne_nil before (List.cons_ne_nil _ []))
  intro part part_mem
  rcases List.mem_append.mp part_mem with part_mem | part_mem
  · have also_mem : part ∈ names path := by simp [names_eq, part_mem]
    exact not_mem_of_mem_names also_mem
  · rwa [List.mem_singleton.mp part_mem]

/-- Another extension changes the last component of a path only: its name ends in the extension, unless
two dots are left over, which lead upwards. -/
theorem components_withExtension (found : fileName? path = some (before, name))
    (nonempty : extension ≠ "") (whole : '/' ∉ extension.toList) :
    ∃ steps, components path = steps ++ [.normal name] ∧
      components (withExtension extension path) =
        steps ++ [if endsInDots path name then .parent
          else .normal (stemOf name ++ "." ++ extension)] := by
  obtain ⟨⟨idles, names_eq, idle⟩, not_idle, not_parent⟩ := names_of_fileName? found
  have last_not_idle : isIdle (lastWithExtension extension path name) = false :=
    lastWithExtension_not_idle not_idle nonempty
  refine ⟨lead (before ++ [name]) ++ before.filterMap Component.ofName?, ?_, ?_⟩
  · rw [components_of_names names_eq not_idle idle, if_neg not_parent]
  · rw [components_of_names (names_withExtension found whole) last_not_idle (by simp),
      lead_append_cons last_not_idle not_idle before [] []]
    congr 2
    unfold lastWithExtension
    split
    · rfl
    · exact if_neg (not_idle_of_length (three_le_length_stemOf not_idle nonempty)).2

/-- A path leads upwards after its extension was replaced if it did before, or if two dots are left
over. -/
theorem parent_mem_components_withExtension_iff (extension path : String) (nonempty : extension ≠ "")
    (whole : '/' ∉ extension.toList) :
    .parent ∈ components (withExtension extension path) ↔
      .parent ∈ components path ∨ EndsInDotsAndExtension path := by
  cases found : fileName? path with
  | none =>
      have no_name : ¬ EndsInDotsAndExtension path := by
        rintro ⟨before, extension, names_eq, nonempty, -⟩
        have := fileName?_of_names names_eq (dots_append_not_idle extension)
          (dots_append_ne_dots nonempty)
        simp [found] at this
      simp [withExtension, found, no_name]
  | some parts =>
      obtain ⟨before, name⟩ := parts
      obtain ⟨steps, path_eq, replaced_eq⟩ := components_withExtension found nonempty whole
      rw [path_eq, replaced_eq, ← endsInDots_iff found]
      cases endsInDots path name <;> simp

theorem isAbsolute_withExtension (extension path : String) (nonempty : extension ≠ "")
    (whole : '/' ∉ extension.toList) :
    isAbsolute (withExtension extension path) = isAbsolute path := by
  rw [Bool.eq_iff_iff, ← root_mem_components_iff, ← root_mem_components_iff]
  cases found : fileName? path with
  | none => simp [withExtension, found]
  | some parts =>
      obtain ⟨before, name⟩ := parts
      obtain ⟨steps, path_eq, replaced_eq⟩ := components_withExtension found nonempty whole
      rw [path_eq, replaced_eq]
      cases endsInDots path name <;> simp

end WithExtension

end HeaderForge.Path
