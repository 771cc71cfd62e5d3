/-! # Fields of a text

A text cut at separator characters. There is always one field more than there are separators. -/

namespace EntityModel.Text

/-- The pieces of a text between separators, empty ones included. -/
def fields (isSeparator : Char → Bool) : List Char → List (List Char)
  | [] => [[]]
  | c :: rest =>
    if isSeparator c then [] :: fields isSeparator rest
    else
      match fields isSeparator rest with
      | [] => [[c]]
      | field :: more => (c :: field) :: more

/-- The empty text has one field, which is empty. -/
@[simp] theorem fields_nil (p : Char → Bool) : fields p [] = [[]] := rfl

/-- Every text has a field. -/
theorem fields_ne_nil (p : Char → Bool) (cs : List Char) : fields p cs ≠ [] := by
  cases cs with
  | nil => simp
  | cons c rest =>
    unfold fields
    split
    · simp
    · split <;> simp

/-- A character that is no separator stands in a field. -/
theorem exists_mem_fields {p : Char → Bool} {cs : List Char} {c : Char} (hc : c ∈ cs)
    (hp : p c = false) : ∃ field ∈ fields p cs, c ∈ field := by
  induction cs with
  | nil => exact absurd hc List.not_mem_nil
  | cons d rest ih =>
    unfold fields
    split
    · rename_i hd
      have hrest : c ∈ rest := by
        rcases List.mem_cons.1 hc with rfl | hrest
        · exact absurd hd (by simp [hp])
        · exact hrest
      obtain ⟨field, hfield, hmem⟩ := ih hrest
      exact ⟨field, List.mem_cons_of_mem _ hfield, hmem⟩
    · split
      · rename_i hf; exact absurd hf (fields_ne_nil p rest)
      · rename_i first more hf
        rcases List.mem_cons.1 hc with rfl | hrest
        · exact ⟨c :: first, List.mem_cons_self, List.mem_cons_self⟩
        · obtain ⟨field, hfield, hmem⟩ := ih hrest
          rcases List.mem_cons.1 (hf ▸ hfield) with rfl | hfield
          · exact ⟨d :: field, List.mem_cons_self, List.mem_cons_of_mem _ hmem⟩
          · exact ⟨field, List.mem_cons_of_mem _ hfield, hmem⟩

end EntityModel.Text
