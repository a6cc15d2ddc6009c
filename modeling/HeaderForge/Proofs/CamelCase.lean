import HeaderForge.Proofs.Characters
import HeaderForge.Proofs.TypeNames

/-!
# Camel case of dotted names

A dotted name in camel case is its words in capitalized form, one after another. So joining two names by
dots joins their camel cases, however many dots there are, dots before and after a name do not count, and
none is left. A qualified name is the name of a package and that of a type, joined by a dot.
-/

namespace HeaderForge

namespace Text

/-- A row of dots. -/
def dots (count : Nat) : String := String.ofList (List.replicate count '.')

theorem dots_succ (count : Nat) : dots (count + 1) = "." ++ dots count := by
  rw [dots, List.replicate_succ, ← List.singleton_append, String.ofList_append]
  rfl

theorem dots_succ' (count : Nat) : dots (count + 1) = dots count ++ "." := by
  rw [dots, List.replicate_succ', String.ofList_append]
  rfl

/-- Empty words need not be left out, since they stay empty when they are capitalized. -/
theorem camelCase_eq_join (name : String) :
    camelCase name = String.join ((split '.' name).map capitalize) := by
  rw [camelCase]
  induction split '.' name with
  | nil => rfl
  | cons word words ih =>
      by_cases empty : word = ""
      · have capital_empty : capitalize "" = "" := rfl
        simp only [empty, ne_eq, not_true, decide_false, Bool.false_eq_true, not_false_eq_true,
          List.filter_cons_of_neg, List.map_cons, String.join_cons, capital_empty,
          String.empty_append]
        exact ih
      · simp only [ne_eq, empty, not_false_eq_true, decide_true, List.filter_cons_of_pos,
          List.map_cons, String.join_cons]
        exact congrArg (capitalize word ++ ·) ih

theorem camelCase_dots_append (count : Nat) (name : String) :
    camelCase (dots count ++ name) = camelCase name := by
  induction count with
  | zero => rw [dots, List.replicate_zero, String.ofList_nil, String.empty_append]
  | succ count ih =>
      have dot_first : dots (count + 1) ++ name = "" ++ "." ++ (dots count ++ name) := by
        rw [dots_succ, String.append_assoc, String.empty_append]
      rw [dot_first, camelCase_append_dot_append, ih]
      exact String.empty_append

theorem camelCase_append_dots (name : String) (count : Nat) :
    camelCase (name ++ dots count) = camelCase name := by
  induction count with
  | zero => rw [dots, List.replicate_zero, String.ofList_nil, String.append_empty]
  | succ count ih =>
      have dot_last : name ++ dots (count + 1) = name ++ dots count ++ "." ++ "" := by
        rw [dots_succ', String.append_empty, String.append_assoc]
      rw [dot_last, camelCase_append_dot_append, ih]
      exact String.append_empty

theorem camelCase_append_dots_append (front back : String) (count : Nat) :
    camelCase (front ++ dots (count + 1) ++ back) = camelCase front ++ camelCase back := by
  have dot_between : front ++ dots (count + 1) ++ back = front ++ "." ++ (dots count ++ back) := by
    simp only [dots_succ, String.append_assoc]
  rw [dot_between, camelCase_append_dot_append, camelCase_dots_append]

/-- A capital form has no dot, because it is made of letters. -/
theorem dot_not_mem_camelCase (name : String) : '.' ∉ (camelCase name).toList := by
  have letters : HasLetters (· ≠ '.') := hasLetters_of_high (by decide) (by
    rintro c high rfl
    exact absurd high (by decide))
  have made : MadeOf (· ≠ '.') (camelCase name) := by
    rw [camelCase_eq_join]
    apply madeOf_join
    intro word word_mem
    obtain ⟨part, part_mem, rfl⟩ := List.mem_map.mp word_mem
    refine madeOf_capitalize letters ?_
    rintro c c_mem rfl
    exact not_mem_of_mem_split part_mem c_mem
  exact fun dot_mem => made '.' dot_mem rfl

end Text

namespace Naming

open Text (camelCase capitalize dots split)

/-- The camel case of names joined by a dot is that of the one followed by that of the other, and has no
dot. -/
theorem camelCase_joins_names :
    (∀ name, camelCase name = String.join ((split '.' name).map capitalize)) ∧
      (∀ name, '.' ∉ (camelCase name).toList) ∧
      (∀ front back, camelCase (front ++ "." ++ back) = camelCase front ++ camelCase back) ∧
      (∀ leading name trailing, camelCase (dots leading ++ name ++ dots trailing) = camelCase name) ∧
      (∀ front more back,
        camelCase (front ++ dots (more + 1) ++ back) = camelCase (front ++ "." ++ back)) ∧
      ∀ type : TypeRef,
        camelCase type.qualifiedName = camelCase type.package ++ camelCase type.name := by
  refine ⟨Text.camelCase_eq_join, Text.dot_not_mem_camelCase, Text.camelCase_append_dot_append, ?_, ?_,
    camelCase_qualifiedName⟩
  · intro leading name trailing
    rw [Text.camelCase_append_dots, Text.camelCase_dots_append]
  · intro front more back
    rw [Text.camelCase_append_dots_append, Text.camelCase_append_dot_append]

example : camelCase "..com..ßeta.\uFB01sh." = "ComSSetaFIsh" := by decide

end Naming

end HeaderForge
