import HeaderForge.Header.Emission

/-!
# Laws of emissions

An emission writes until its first fault. Emissions one after another therefore have the first of
their faults, and without a fault they write all of their steps.
-/

namespace HeaderForge.Header.Emission

@[simp] theorem andThen_fault (first second : Emission) :
    (first.andThen second).fault = first.fault.or second.fault := by
  obtain ⟨steps, fault⟩ := first
  cases fault with
  | none => rfl
  | some fault => rfl

theorem andThen_of_sound {first : Emission} (sound : first.fault = none) (second : Emission) :
    first.andThen second = ⟨first.steps ++ second.steps, second.fault⟩ := by
  simp only [andThen, sound]

theorem andThen_of_fault {first : Emission} {fault : Fault} (stopped : first.fault = some fault)
    (second : Emission) : first.andThen second = first := by
  simp only [andThen, stopped]

/-- An emission without a fault is its steps. -/
theorem eq_of_sound {emission : Emission} (sound : emission.fault = none) :
    emission = ⟨emission.steps, none⟩ := by
  rw [← sound]

theorem forEach_cons (value : α) (rest : List α) (emit : α → Emission) :
    forEach (value :: rest) emit = (emit value).andThen (forEach rest emit) := rfl

theorem forEach_congr {values : List α} {emit other : α → Emission}
    (same : ∀ value ∈ values, emit value = other value) :
    forEach values emit = forEach values other := by
  induction values with
  | nil => rfl
  | cons value rest ih =>
      rw [List.forall_mem_cons] at same
      rw [forEach_cons, forEach_cons, same.1, ih same.2]

/-- Of emissions for several values, the first fault counts. -/
@[simp] theorem forEach_fault (values : List α) (emit : α → Emission) :
    (forEach values emit).fault = values.findSome? fun value => (emit value).fault := by
  induction values with
  | nil => rfl
  | cons value rest ih =>
      rw [forEach_cons, andThen_fault, ih, List.findSome?_cons]
      cases (emit value).fault with
      | none => rfl
      | some fault => rfl

/-- Emissions without a fault write all their steps. -/
theorem forEach_of_sound {values : List α} {emit : α → Emission}
    (sound : ∀ value ∈ values, (emit value).fault = none) :
    forEach values emit = ⟨values.flatMap fun value => (emit value).steps, none⟩ := by
  induction values with
  | nil => rfl
  | cons value rest ih =>
      rw [forEach_cons, andThen_of_sound (sound value List.mem_cons_self),
        ih fun other other_mem => sound other (List.mem_cons_of_mem value other_mem)]
      rfl

/-- Of emissions for several values, those before the first that is stopped are written whole. -/
theorem forEach_of_fault {before after : List α} {value : α} {emit : α → Emission}
    {fault : Fault} (sound : ∀ earlier ∈ before, (emit earlier).fault = none)
    (stopped : (emit value).fault = some fault) :
    forEach (before ++ value :: after) emit =
      ⟨before.flatMap (fun earlier => (emit earlier).steps) ++ (emit value).steps, some fault⟩ := by
  induction before with
  | nil =>
      rw [List.nil_append, forEach_cons, andThen_of_fault stopped, ← stopped]
      rfl
  | cons first rest ih =>
      rw [List.forall_mem_cons] at sound
      rw [List.cons_append, forEach_cons, andThen_of_sound sound.1, ih sound.2, List.flatMap_cons,
        List.append_assoc]

end HeaderForge.Header.Emission
