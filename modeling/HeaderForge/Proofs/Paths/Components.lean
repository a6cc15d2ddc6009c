import HeaderForge.Path
import HeaderForge.Proofs.Splitting

/-!
# Components of paths

The components of a path are its beginning and what its names stand for, one name after another. So a
path stays inside the folder it is followed from exactly if it is not absolute and no component leads
upwards, and then it only adds ordinary names to the components of the folder.
-/

namespace HeaderForge.Path

/-! ## Components -/

/-- The step that names begin with, apart from those that the names stand for. -/
def lead : List String → List Component
  | [] => []
  | first :: rest =>
    if first = "" ∧ rest ≠ [] then [.root] else if first = "." then [.current] else []

theorem names_ne_nil (path : String) : names path ≠ [] := Text.split_ne_nil '/' path

theorem not_mem_of_mem_names {path name : String} (name_mem : name ∈ names path) :
    '/' ∉ name.toList :=
  Text.not_mem_of_mem_split name_mem

theorem intercalate_names (path : String) : "/".intercalate (names path) = path :=
  Text.intercalate_split '/' path

theorem names_intercalate {parts : List String} (nonempty : parts ≠ [])
    (whole : ∀ part ∈ parts, '/' ∉ part.toList) : names ("/".intercalate parts) = parts :=
  Text.split_intercalate nonempty whole

theorem names_append_slash_append (first second : String) :
    names (first ++ "/" ++ second) = names first ++ names second :=
  Text.split_append_singleton_append first second

/-- A path is absolute exactly if its names begin with an empty one that is not all of it. -/
theorem isAbsolute_iff (path : String) :
    isAbsolute path = true ↔ ∃ rest, rest ≠ [] ∧ names path = "" :: rest := by
  constructor
  · intro absolute
    obtain ⟨after, chars_eq⟩ := List.isPrefixOf_iff_prefix.mp absolute
    have path_eq : path = "" ++ "/" ++ String.ofList after := by
      apply String.toList_inj.mp
      simp [← chars_eq]
    refine ⟨names (String.ofList after), names_ne_nil _, ?_⟩
    rw [path_eq, names_append_slash_append]
    rfl
  · rintro ⟨rest, nonempty, names_eq⟩
    have path_eq : path = "" ++ "/" ++ "/".intercalate rest := by
      rw [← intercalate_names path, names_eq, String.intercalate_cons_of_ne_nil nonempty]
    rw [path_eq, isAbsolute, Text.startsWith, List.isPrefixOf_iff_prefix]
    exact ⟨("/".intercalate rest).toList, by simp⟩

@[simp] theorem ofName?_empty : Component.ofName? "" = none := rfl

@[simp] theorem ofName?_dot : Component.ofName? "." = none := rfl

/-- The components of a path are its beginning and what its names stand for. -/
theorem components_eq (path : String) :
    components path = lead (names path) ++ (names path).filterMap Component.ofName? := by
  unfold components
  split
  · next rest names_eq =>
      rw [names_eq, lead, List.filterMap_cons_none ofName?_empty]
      by_cases nonempty : rest = []
      · have relative : ¬ isAbsolute path = true := by
          rw [isAbsolute_iff, names_eq, nonempty]
          rintro ⟨other, other_nonempty, same⟩
          exact other_nonempty (List.cons_eq_cons.mp same).2.symm
        simp [relative, nonempty]
      · have absolute : isAbsolute path = true := (isAbsolute_iff path).mpr ⟨rest, nonempty, names_eq⟩
        simp [absolute, nonempty]
  · next rest names_eq => simp [names_eq, lead, List.filterMap_cons]
  · next not_empty not_dot =>
      cases names_eq : names path with
      | nil => exact absurd names_eq (names_ne_nil path)
      | cons first rest =>
          have first_ne : first ≠ "" := fun same => not_empty rest (same ▸ names_eq)
          have first_ne_dot : first ≠ "." := fun same => not_dot rest (same ▸ names_eq)
          simp [lead, first_ne, first_ne_dot]

theorem ofName?_of_not_idle {name : String} (not_idle : isIdle name = false) :
    Component.ofName? name = some (if name = ".." then .parent else .normal name) := by
  have not_mute : ¬ (name = "" ∨ name = ".") := by simpa [isIdle] using not_idle
  rw [Component.ofName?, if_neg not_mute]
  split <;> rfl

theorem ofName?_of_idle {name : String} (idle : isIdle name = true) :
    Component.ofName? name = none := by
  have mute : name = "" ∨ name = "." := by simpa [isIdle] using idle
  rw [Component.ofName?, if_pos mute]

theorem ofName?_ne_root (name : String) : Component.ofName? name ≠ some .root := by
  cases idle : isIdle name with
  | true => simp [ofName?_of_idle idle]
  | false =>
      rw [ofName?_of_not_idle idle]
      split <;> simp

theorem root_mem_components_iff (path : String) :
    .root ∈ components path ↔ isAbsolute path = true := by
  rw [components_eq, List.mem_append, isAbsolute_iff]
  constructor
  · rintro (leading | named)
    · cases names_eq : names path with
      | nil => exact absurd names_eq (names_ne_nil path)
      | cons first rest =>
          rw [names_eq, lead] at leading
          split at leading
          · next begins => exact ⟨rest, begins.2, by rw [begins.1]⟩
          · split at leading <;> simp at leading
    · obtain ⟨name, -, found⟩ := List.mem_filterMap.mp named
      exact absurd found (ofName?_ne_root name)
  · rintro ⟨rest, nonempty, names_eq⟩
    simp [names_eq, lead, nonempty]

/-- A path stays inside exactly if it is neither absolute nor leads upwards. -/
theorem staysInside_iff (path : String) :
    staysInside path = true ↔ isAbsolute path = false ∧ .parent ∉ components path := by
  have relative_iff : isAbsolute path = false ↔ .root ∉ components path := by
    rw [root_mem_components_iff, Bool.not_eq_true]
  rw [relative_iff, staysInside, List.all_eq_true]
  constructor
  · intro inside
    exact ⟨fun root_mem => by simpa using inside _ root_mem,
      fun parent_mem => by simpa using inside _ parent_mem⟩
  · rintro ⟨no_root, no_parent⟩ component component_mem
    cases component with
    | root => exact absurd component_mem no_root
    | parent => exact absurd component_mem no_parent
    | current => rfl
    | normal name => rfl

/-! ## Paths followed from folders -/

/-- A name between slashes that leads to something in a folder. -/
structure IsOrdinary (name : String) : Prop where
  not_empty : name ≠ ""
  not_current : name ≠ "."
  not_parent : name ≠ ".."
  no_slash : '/' ∉ name.toList

/-- The components of a path that lead somewhere. -/
def resolved (path : String) : List Component := (components path).filter (· ≠ .current)

/-- The target lies at or below the folder: its components are those of the folder and ordinary names.
The empty path adds nothing to a dot that the target may begin with. -/
def LiesBelow (folder target : String) : Prop :=
  ∃ names : List String, (∀ name ∈ names, IsOrdinary name) ∧
    resolved target = resolved folder ++ names.map .normal ∧
    (folder ≠ "" → components target = components folder ++ names.map .normal)

theorem join_eq_of_relative {folder path : String} (relative : isAbsolute path = false)
    (nonempty : folder ≠ "") :
    ∃ outer, join folder path = outer ++ "/" ++ path ∧ (folder = outer ∨ folder = outer ++ "/") := by
  by_cases ending : Text.endsWith folder "/" = true
  · obtain ⟨front, chars_eq⟩ := List.isSuffixOf_iff_suffix.mp ending
    have folder_eq : folder = String.ofList front ++ "/" := by
      apply String.toList_inj.mp
      simp [← chars_eq]
    exact ⟨String.ofList front, by simp [join, relative, ending, ← folder_eq], .inr folder_eq⟩
  · exact ⟨folder, by simp [join, relative, nonempty, ending], .inl rfl⟩

theorem lead_append {start : List String} (nonempty : start ≠ []) (not_empty : start ≠ [""])
    (more : List String) : lead (start ++ more) = lead start := by
  cases start with
  | nil => exact absurd rfl nonempty
  | cons first rest =>
      by_cases first_empty : first = ""
      · have rest_ne : rest ≠ [] := by
          rintro rfl
          exact not_empty (by rw [first_empty])
        simp [lead, first_empty, rest_ne]
      · simp [lead, first_empty]

/-- A relative path adds to the components of a folder what its own names stand for. -/
theorem components_join {folder path : String} (relative : isAbsolute path = false)
    (nonempty : folder ≠ "") :
    components (join folder path) =
      components folder ++ (names path).filterMap Component.ofName? := by
  obtain ⟨outer, join_eq, folder_cases⟩ := join_eq_of_relative relative nonempty
  have empty_iff : names outer = [""] → outer = "" := by
    intro names_eq
    rw [← intercalate_names outer, names_eq, String.intercalate_singleton]
  rw [join_eq, components_eq, names_append_slash_append, List.filterMap_append, ← List.append_assoc]
  rcases folder_cases with folder_eq | folder_eq
  · have not_empty : names outer ≠ [""] := fun names_eq =>
      nonempty (folder_eq.trans (empty_iff names_eq))
    rw [lead_append (names_ne_nil outer) not_empty, folder_eq, components_eq]
  · have names_folder : names folder = names outer ++ [""] := by
      have folder_eq_append : folder = outer ++ "/" ++ "" := by simpa using folder_eq
      rw [folder_eq_append, names_append_slash_append]
      rfl
    have lead_eq : lead (names outer ++ names path) = lead (names outer ++ [""]) := by
      by_cases not_empty : names outer = [""]
      · simp [not_empty, lead, names_ne_nil path]
      · rw [lead_append (names_ne_nil outer) not_empty, lead_append (names_ne_nil outer) not_empty]
    rw [components_eq folder, names_folder, lead_eq, List.filterMap_append]
    simp

/-- Names that do not lead upwards are ordinary, or mean nothing. -/
theorem exists_ordinary_of_no_parent {parts : List String} (whole : ∀ part ∈ parts, '/' ∉ part.toList)
    (no_parent : .parent ∉ parts.filterMap Component.ofName?) :
    ∃ steps : List String, (∀ step ∈ steps, IsOrdinary step) ∧
      parts.filterMap Component.ofName? = steps.map .normal := by
  induction parts with
  | nil => exact ⟨[], by simp, rfl⟩
  | cons first rest ih =>
      have rest_whole : ∀ part ∈ rest, '/' ∉ part.toList := fun part part_mem =>
        whole part (List.mem_cons_of_mem first part_mem)
      cases idle : isIdle first with
      | true =>
          rw [List.filterMap_cons_none (ofName?_of_idle idle)] at no_parent ⊢
          exact ih rest_whole no_parent
      | false =>
          rw [List.filterMap_cons_some (ofName?_of_not_idle idle)] at no_parent ⊢
          have not_parent : first ≠ ".." := by
            rintro rfl
            exact no_parent List.mem_cons_self
          obtain ⟨steps, ordinary, steps_eq⟩ := ih rest_whole fun parent_mem =>
            no_parent (List.mem_cons_of_mem _ parent_mem)
          have not_mute : first ≠ "" ∧ first ≠ "." := by simpa [isIdle] using idle
          have first_ordinary : IsOrdinary first :=
            ⟨not_mute.1, not_mute.2, not_parent, whole first List.mem_cons_self⟩
          refine ⟨first :: steps, ?_, by rw [if_neg not_parent, steps_eq, List.map_cons]⟩
          intro step step_mem
          rcases List.mem_cons.mp step_mem with rfl | step_mem
          · exact first_ordinary
          · exact ordinary step step_mem

theorem mem_lead {parts : List String} {component : Component}
    (component_mem : component ∈ lead parts) : component = .root ∨ component = .current := by
  unfold lead at component_mem
  split at component_mem
  · cases component_mem
  · split at component_mem
    · exact .inl (List.mem_singleton.mp component_mem)
    · split at component_mem
      · exact .inr (List.mem_singleton.mp component_mem)
      · cases component_mem

/-- The target of a path that stays inside lies below every folder the path is followed from. -/
theorem liesBelow_join {path : String} (inside : staysInside path = true) (folder : String) :
    LiesBelow folder (join folder path) := by
  obtain ⟨relative, no_parent⟩ := (staysInside_iff path).mp inside
  rw [components_eq, List.mem_append, not_or] at no_parent
  obtain ⟨steps, ordinary, steps_eq⟩ :=
    exists_ordinary_of_no_parent (fun part part_mem => not_mem_of_mem_names part_mem) no_parent.2
  have steps_resolved : (steps.map Component.normal).filter (· ≠ .current) = steps.map .normal :=
    List.filter_eq_self.mpr (by simp)
  by_cases empty : folder = ""
  · have lead_eq : (lead (names path)).filter (· ≠ .current) = [] := by
      have begins_current : ∀ component ∈ lead (names path), component = .current := by
        intro component component_mem
        refine (mem_lead component_mem).resolve_left fun is_root => ?_
        have root_mem : .root ∈ components path := by
          rw [components_eq]
          exact List.mem_append_left _ (is_root ▸ component_mem)
        rw [root_mem_components_iff, relative] at root_mem
        cases root_mem
      simpa using begins_current
    have join_eq : join folder path = path := by simp [join, relative, empty]
    refine ⟨steps, ordinary, ?_, fun nonempty => absurd empty nonempty⟩
    rw [join_eq, empty, resolved, components_eq, List.filter_append, lead_eq, steps_eq,
      steps_resolved]
    rfl
  · have components_eq : components (join folder path) = components folder ++ steps.map .normal := by
      rw [components_join relative empty, steps_eq]
    refine ⟨steps, ordinary, ?_, fun _ => components_eq⟩
    rw [resolved, components_eq, List.filter_append, steps_resolved, resolved]

end HeaderForge.Path
