import LanguageClient.Text.Split

set_option autoImplicit false

namespace LanguageClient

namespace Split

variable {α : Type} [DecidableEq α] {separator : α} {piece list : List α}
  {pieces : List (List α)}

theorem on_eq_splitOn (separator : α) (list : List α) :
    on separator list = list.splitOn separator := by
  induction list with
  | nil => rfl
  | cons value rest ih =>
    rw [on, List.splitOn_cons_eq_if_modifyHead, ih]
    by_cases here : value = separator
    · simp [here]
    · cases cut : rest.splitOn separator with
      | nil => exact absurd cut (List.splitOn_ne_nil separator rest)
      | cons first later => simp [here]

theorem on_ne_nil (separator : α) (list : List α) : on separator list ≠ [] := by
  rw [on_eq_splitOn]
  exact List.splitOn_ne_nil separator list

theorem intercalate_on (separator : α) (list : List α) :
    [separator].intercalate (on separator list) = list := by
  rw [on_eq_splitOn, List.intercalate_splitOn]

theorem on_intercalate (apart : ∀ piece ∈ pieces, separator ∉ piece) (nonempty : pieces ≠ []) :
    on separator ([separator].intercalate pieces) = pieces := by
  rw [on_eq_splitOn, List.splitOn_intercalate separator apart nonempty]

theorem not_mem_of_mem_on (mem : piece ∈ on separator list) : separator ∉ piece := by
  induction list generalizing piece with
  | nil =>
    have empty : piece = [] := List.mem_singleton.mp mem
    simp [empty]
  | cons value rest ih =>
    rw [on] at mem
    by_cases here : value = separator
    · rw [if_pos here] at mem
      rcases List.mem_cons.mp mem with empty | later
      · simp [empty]
      · exact ih later
    · rw [if_neg here] at mem
      cases cut : on separator rest with
      | nil => exact absurd cut (on_ne_nil separator rest)
      | cons first later =>
        simp only [cut, List.mem_cons] at mem ih
        rcases mem with extended | other
        · rw [extended, List.mem_cons, not_or]
          exact ⟨Ne.symm here, ih (Or.inl rfl)⟩
        · exact ih (Or.inr other)

end Split

end LanguageClient
