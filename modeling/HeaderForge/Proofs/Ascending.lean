import HeaderForge.Ascending
import Mathlib.Data.List.Basic

/-!
# Laws of ascending lists

An ascending list stands for the set of its elements: it is determined by them, and adding elements
in any order and number gives the same list.
-/

namespace HeaderForge.Ascending

/-- An order in which of two different values exactly one is before the other. -/
structure IsOrder {α : Type*} (before : α → α → Bool) : Prop where
  /-- No value is before itself. -/
  irrefl (value : α) : before value value = false
  /-- What is before is before all that follows. -/
  trans {first second third : α} : before first second = true → before second third = true →
    before first third = true
  /-- Different values are ordered. -/
  total {first second : α} : first ≠ second → before first second = false →
    before second first = true

/-- The elements are in ascending order, each once. -/
def Ascends {α : Type*} (before : α → α → Bool) (values : List α) : Prop :=
  values.Pairwise fun left right => before left right = true

section Lists

variable {α : Type*} [DecidableEq α] {before : α → α → Bool}

@[simp] theorem mem_insert {value other : α} {values : List α} :
    other ∈ insert before value values ↔ other = value ∨ other ∈ values := by
  induction values with
  | nil => simp [insert]
  | cons first rest ih =>
      unfold insert
      split_ifs with same earlier
      · simp [same]
      · simp
      · simp only [List.mem_cons, ih, or_left_comm]

@[simp] theorem mem_ofList {value : α} {values : List α} :
    value ∈ ofList before values ↔ value ∈ values := by
  induction values with
  | nil => simp [ofList]
  | cons first rest ih =>
      change value ∈ insert before first (ofList before rest) ↔ value ∈ first :: rest
      rw [mem_insert, ih, List.mem_cons]

theorem Ascends.insert (order : IsOrder before) (value : α) {values : List α}
    (ascends : Ascends before values) : Ascends before (insert before value values) := by
  induction values with
  | nil => exact List.pairwise_singleton _ value
  | cons first rest ih =>
      obtain ⟨first_before, rest_ascends⟩ := List.pairwise_cons.mp ascends
      unfold Ascending.insert
      split_ifs with same earlier
      · exact ascends
      · refine List.pairwise_cons.mpr ⟨fun other other_mem => ?_, ascends⟩
        rcases List.mem_cons.mp other_mem with rfl | other_mem
        · exact earlier
        · exact order.trans earlier (first_before other other_mem)
      · refine List.pairwise_cons.mpr ⟨fun other other_mem => ?_, ih rest_ascends⟩
        rcases mem_insert.mp other_mem with rfl | other_mem
        · exact order.total same (Bool.not_eq_true _ ▸ earlier)
        · exact first_before other other_mem

theorem ofList_ascends (order : IsOrder before) (values : List α) :
    Ascends before (ofList before values) := by
  induction values with
  | nil => exact List.Pairwise.nil
  | cons first rest ih => exact ih.insert order first

omit [DecidableEq α] in
theorem Ascends.nodup (order : IsOrder before) {values : List α}
    (ascends : Ascends before values) : values.Nodup := by
  refine List.Pairwise.imp (fun {left right} earlier same => ?_) ascends
  rw [same, order.irrefl right] at earlier
  exact Bool.false_ne_true earlier

omit [DecidableEq α] in
/-- Ascending lists with the same elements are the same. -/
theorem Ascends.eq_of_mem_iff (order : IsOrder before) {first second : List α}
    (first_ascends : Ascends before first) (second_ascends : Ascends before second)
    (mem_iff : ∀ value, value ∈ first ↔ value ∈ second) : first = second := by
  have perm : first.Perm second :=
    (List.perm_ext_iff_of_nodup (first_ascends.nodup order) (second_ascends.nodup order)).mpr mem_iff
  refine List.Perm.eq_of_pairwise ?_ first_ascends second_ascends perm
  intro left right _ _ left_before right_before
  have circular := order.trans left_before right_before
  rw [order.irrefl left] at circular
  exact absurd circular Bool.false_ne_true

end Lists

/-! ## Orders -/

theorem textBefore_isOrder : IsOrder textBefore where
  irrefl text := decide_eq_false (String.lt_irrefl text)
  trans first_before second_before :=
    decide_eq_true (String.lt_trans (of_decide_eq_true first_before)
      (of_decide_eq_true second_before))
  total {first second} different not_before := by
    apply decide_eq_true
    by_contra not_after
    have first_le := String.not_lt.mp not_after
    have second_le := String.not_lt.mp (of_decide_eq_false not_before)
    exact different (String.le_antisymm first_le second_le)

/-- False is before true. -/
def boolBefore (left right : Bool) : Bool := !left && right

theorem boolBefore_isOrder : IsOrder boolBefore where
  irrefl := by decide
  trans := by decide
  total := by decide

/-- Pairs by their first parts, and those with equal first parts by their second. -/
def lexicographic {α β : Type*} [DecidableEq α] (outer : α → α → Bool) (inner : β → β → Bool)
    (left right : α × β) : Bool :=
  if left.1 ≠ right.1 then outer left.1 right.1 else inner left.2 right.2

theorem lexicographic_eq_true_iff {α β : Type*} [DecidableEq α] {outer : α → α → Bool}
    {inner : β → β → Bool} (outer_order : IsOrder outer) (left right : α × β) :
    lexicographic outer inner left right = true ↔
      outer left.1 right.1 = true ∨ left.1 = right.1 ∧ inner left.2 right.2 = true := by
  unfold lexicographic
  split_ifs with different
  · exact ⟨Or.inl, fun earlier => earlier.resolve_right fun same => different same.1⟩
  · have same : left.1 = right.1 := not_not.mp different
    rw [same, outer_order.irrefl]
    simp

theorem lexicographic_isOrder {α β : Type*} [DecidableEq α] {outer : α → α → Bool}
    {inner : β → β → Bool} (outer_order : IsOrder outer) (inner_order : IsOrder inner) :
    IsOrder (lexicographic outer inner) where
  irrefl pair := by simp [lexicographic, inner_order.irrefl]
  trans {first second third} first_before second_before := by
    rw [lexicographic_eq_true_iff outer_order] at first_before second_before ⊢
    rcases first_before with first_before | ⟨first_same, first_before⟩
    · left
      rcases second_before with second_before | ⟨second_same, -⟩
      · exact outer_order.trans first_before second_before
      · rwa [← second_same]
    · rw [first_same]
      rcases second_before with second_before | ⟨second_same, second_before⟩
      · exact Or.inl second_before
      · exact Or.inr ⟨second_same, inner_order.trans first_before second_before⟩
  total {first second} different not_before := by
    rw [← Bool.not_eq_true, lexicographic_eq_true_iff outer_order, not_or] at not_before
    rw [lexicographic_eq_true_iff outer_order]
    obtain ⟨not_outer, not_inner⟩ := not_before
    by_cases same : first.1 = second.1
    · have inner_different : first.2 ≠ second.2 := fun inner_same =>
        different (Prod.ext same inner_same)
      have not_inner : inner first.2 second.2 = false :=
        Bool.not_eq_true _ ▸ fun earlier => not_inner ⟨same, earlier⟩
      exact Or.inr ⟨same.symm, inner_order.total inner_different not_inner⟩
    · exact Or.inl (outer_order.total same (Bool.not_eq_true _ ▸ not_outer))

/-- Values are ordered like what stands for them. -/
theorem IsOrder.comap {α β : Type*} {before : β → β → Bool} (order : IsOrder before)
    {key : α → β} (injective : Function.Injective key) :
    IsOrder fun left right => before (key left) (key right) where
  irrefl value := order.irrefl (key value)
  trans := order.trans
  total different := order.total (injective.ne different)

end HeaderForge.Ascending
