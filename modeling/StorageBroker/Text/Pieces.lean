/-!
# Texts in pieces

A text is cut at every occurrence of a separator. The pieces are what stands between the
separators, so there is one more of them than separators, and each may be empty. No piece holds a
separator (`not_mem_of_mem_pieces`), and joined by the separator the pieces are the text again
(`join_pieces`).
-/

set_option autoImplicit false

namespace StorageBroker.Text

/-- The pieces of a text between the separators. -/
def pieces (separator : Char) : List Char → List (List Char)
  | [] => [[]]
  | character :: rest =>
    if character = separator then [] :: pieces separator rest
    else
      match pieces separator rest with
      | [] => [[character]]
      | first :: others => (character :: first) :: others

/-- There is a piece before the first separator. -/
theorem pieces_ne_nil (separator : Char) (text : List Char) : pieces separator text ≠ [] := by
  cases text with
  | nil => exact List.cons_ne_nil _ _
  | cons character rest =>
    rw [pieces]
    split
    · exact List.cons_ne_nil _ _
    · split <;> exact List.cons_ne_nil _ _

/-- No piece holds a separator. -/
theorem not_mem_of_mem_pieces {separator : Char} {text piece : List Char}
    (member : piece ∈ pieces separator text) : separator ∉ piece := by
  induction text generalizing piece with
  | nil =>
    rw [pieces, List.mem_singleton] at member
    rw [member]
    exact List.not_mem_nil
  | cons character rest ih =>
    rw [pieces] at member
    split at member
    · rcases List.mem_cons.1 member with empty | behind
      · rw [empty]
        exact List.not_mem_nil
      · exact ih behind
    · rename_i other
      split at member
      · rename_i nothing
        exact absurd nothing (pieces_ne_nil separator rest)
      · rename_i first others cut
        rw [cut] at ih
        rcases List.mem_cons.1 member with front | behind
        · rw [front, List.mem_cons]
          rintro (same | inside)
          · exact other same.symm
          · exact ih List.mem_cons_self inside
        · exact ih (List.mem_cons_of_mem _ behind)

/-- Joined by the separator, the pieces are the text. -/
theorem join_pieces (separator : Char) (text : List Char) :
    List.intercalate [separator] (pieces separator text) = text := by
  induction text with
  | nil => rfl
  | cons character rest ih =>
    rw [pieces]
    split
    · rename_i same
      obtain ⟨first, others, cut⟩ := List.exists_cons_of_ne_nil (pieces_ne_nil separator rest)
      rw [cut] at ih ⊢
      rw [List.intercalate_cons_cons, ih, same]
      rfl
    · split
      · rename_i nothing
        exact absurd nothing (pieces_ne_nil separator rest)
      · rename_i first others cut
        rw [cut] at ih
        cases others with
        | nil =>
          rw [List.intercalate_singleton] at ih ⊢
          rw [ih]
        | cons second others =>
          rw [List.intercalate_cons_cons] at ih ⊢
          rw [List.cons_append, List.cons_append, ih]

end StorageBroker.Text
