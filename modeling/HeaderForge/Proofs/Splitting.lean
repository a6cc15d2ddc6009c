import HeaderForge.Text.Words

/-!
# Laws of splitting

A text is its parts, joined by the character it was split at. Splitting commutes with joining two texts
by that character.
-/

namespace HeaderForge.Text

variable {mark : Char}

theorem split_ne_nil (mark : Char) (text : String) : split mark text ≠ [] := by
  simp [split, List.splitOn_ne_nil]

theorem toList_intercalate_singleton (mark : Char) (parts : List String) :
    ((String.singleton mark).intercalate parts).toList =
      [mark].intercalate (parts.map String.toList) := by
  rw [String.toList_intercalate, String.toList_singleton]

/-- The parts of a text make up the text. -/
theorem intercalate_split (mark : Char) (text : String) :
    (String.singleton mark).intercalate (split mark text) = text := by
  have toList_ofList : String.toList ∘ String.ofList = id := by
    funext chars
    simp
  apply String.toList_inj.mp
  rw [toList_intercalate_singleton, split, List.map_map, toList_ofList, List.map_id,
    List.intercalate_splitOn]

/-- Parts without the character are found again. -/
theorem split_intercalate {parts : List String} (nonempty : parts ≠ [])
    (whole : ∀ part ∈ parts, mark ∉ part.toList) :
    split mark ((String.singleton mark).intercalate parts) = parts := by
  have ofList_toList : String.ofList ∘ String.toList = id := by
    funext text
    simp
  rw [split, toList_intercalate_singleton, List.splitOn_intercalate mark (by simpa using whole)
    (by simpa using nonempty), List.map_map, ofList_toList, List.map_id]

/-- What a list is split at stands in none of its pieces. -/
theorem not_of_mem_splitOnP {test : α → Bool} {values piece : List α}
    (piece_mem : piece ∈ values.splitOnP test) : ∀ value ∈ piece, test value = false := by
  induction values generalizing piece with
  | nil =>
      obtain rfl : piece = [] := by simpa using piece_mem
      simp
  | cons value rest ih =>
      obtain ⟨next, others, rest_eq⟩ :=
        List.exists_cons_of_ne_nil (List.splitOnP_ne_nil test rest)
      rw [List.splitOnP_cons_eq_if_modifyHead, rest_eq] at piece_mem
      rw [rest_eq] at ih
      cases cut : test value with
      | true =>
          simp only [cut, if_true, List.mem_cons] at piece_mem
          rcases piece_mem with rfl | piece_mem
          · simp
          · exact ih (List.mem_cons.mpr piece_mem)
      | false =>
          simp only [cut, Bool.false_eq_true, if_false, List.modifyHead_cons,
            List.mem_cons] at piece_mem
          rcases piece_mem with rfl | piece_mem
          · exact List.forall_mem_cons.mpr ⟨cut, ih List.mem_cons_self⟩
          · exact ih (List.mem_cons_of_mem next piece_mem)

theorem not_mem_of_mem_splitOn {chars piece : List Char} (piece_mem : piece ∈ chars.splitOn mark) :
    mark ∉ piece := by
  intro mark_mem
  have differs : (mark == mark) = false := not_of_mem_splitOnP piece_mem mark mark_mem
  simp at differs

theorem not_mem_of_mem_split {text part : String} (part_mem : part ∈ split mark text) :
    mark ∉ part.toList := by
  obtain ⟨chars, chars_mem, rfl⟩ := List.mem_map.mp part_mem
  rw [String.toList_ofList]
  exact not_mem_of_mem_splitOn chars_mem

/-- The parts of two texts joined by the character are those of both. -/
theorem split_append_singleton_append (first second : String) :
    split mark (first ++ String.singleton mark ++ second) =
      split mark first ++ split mark second := by
  have chars_eq : (first ++ String.singleton mark ++ second).toList =
      first.toList ++ mark :: second.toList := by simp
  rw [split, chars_eq, List.splitOn_append_cons_self, List.map_append, ← split, ← split]

theorem split_of_not_mem {text : String} (whole : mark ∉ text.toList) : split mark text = [text] := by
  rw [split, List.splitOn_eq_singleton whole, List.map_singleton, String.ofList_toList]

end HeaderForge.Text
