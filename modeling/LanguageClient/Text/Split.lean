set_option autoImplicit false

namespace LanguageClient

namespace Split

def afterPrefix? {α : Type} [DecidableEq α] : List α → List α → Option (List α)
  | [], list => some list
  | _ :: _, [] => none
  | expected :: pattern, value :: rest =>
    if expected = value then afterPrefix? pattern rest else none

def first? {α : Type} [DecidableEq α] (pattern : List α) : List α → Option (List α × List α)
  | [] => (afterPrefix? pattern []).map ([], ·)
  | value :: rest =>
    match afterPrefix? pattern (value :: rest) with
    | some after => some ([], after)
    | none => (first? pattern rest).map fun (before, after) => (value :: before, after)

def on {α : Type} [DecidableEq α] (separator : α) : List α → List (List α)
  | [] => [[]]
  | value :: rest =>
    if value = separator then [] :: on separator rest
    else
      match on separator rest with
      | [] => [[value]]
      | piece :: pieces => (value :: piece) :: pieces

/-- The pieces between the occurrences of two neighbouring values. -/
def pair {α : Type} [DecidableEq α] (first second : α) : List α → List (List α)
  | [] => [[]]
  | [value] => [[value]]
  | value :: next :: rest =>
    if value = first ∧ next = second then [] :: pair first second rest
    else
      match pair first second (next :: rest) with
      | piece :: later => (value :: piece) :: later
      | [] => [[value]]

theorem afterPrefix?_eq_some_iff {α : Type} [DecidableEq α] {pattern list rest : List α} :
    afterPrefix? pattern list = some rest ↔ list = pattern ++ rest := by
  induction pattern generalizing list with
  | nil => simp [afterPrefix?]
  | cons expected pattern ih =>
    cases list with
    | nil => simp [afterPrefix?]
    | cons value tail =>
      by_cases same : expected = value
      · simp [afterPrefix?, same, ih]
      · simp [afterPrefix?, same, Ne.symm same]

theorem eq_append_of_first? {α : Type} [DecidableEq α] {pattern list before after : List α}
    (found : first? pattern list = some (before, after)) :
    list = before ++ pattern ++ after := by
  induction list generalizing before with
  | nil =>
    obtain ⟨rest, matched, same⟩ := Option.map_eq_some_iff.mp found
    obtain ⟨rfl, rfl⟩ : [] = before ∧ rest = after := by simpa using same
    simpa using afterPrefix?_eq_some_iff.mp matched
  | cons value rest ih =>
    rw [first?] at found
    split at found
    · rename_i tail matched
      obtain ⟨rfl, rfl⟩ : [] = before ∧ tail = after := by simpa using found
      simpa using afterPrefix?_eq_some_iff.mp matched
    · obtain ⟨⟨front, back⟩, inner, same⟩ := Option.map_eq_some_iff.mp found
      obtain ⟨rfl, rfl⟩ : value :: front = before ∧ back = after := by simpa using same
      simp [ih inner]

/-- A match that is no longer than the list does not reach into what follows. -/
theorem afterPrefix?_append_eq_none {α : Type} [DecidableEq α] {pattern list : List α}
    (more : List α) (short : pattern.length ≤ list.length)
    (missing : afterPrefix? pattern list = none) : afterPrefix? pattern (list ++ more) = none := by
  rw [Option.eq_none_iff_forall_not_mem] at missing ⊢
  intro rest matched
  obtain ⟨inside, same⟩ : pattern <+: list :=
    List.prefix_of_prefix_length_le ⟨rest, (afterPrefix?_eq_some_iff.mp matched).symm⟩
      (List.prefix_append list more) short
  exact missing inside (afterPrefix?_eq_some_iff.mpr same.symm)

/-- What is found stays found when more follows. -/
theorem first?_append {α : Type} [DecidableEq α] {pattern list before after : List α}
    (more : List α) (found : first? pattern list = some (before, after)) :
    first? pattern (list ++ more) = some (before, after ++ more) := by
  induction list generalizing before with
  | nil =>
    obtain ⟨rest, matched, same⟩ := Option.map_eq_some_iff.mp found
    obtain ⟨rfl, rfl⟩ : [] = before ∧ rest = after := by simpa using same
    obtain ⟨rfl, rfl⟩ := List.append_eq_nil_iff.mp (afterPrefix?_eq_some_iff.mp matched).symm
    cases more <;> simp [first?, afterPrefix?]
  | cons value rest ih =>
    rw [first?] at found
    rw [List.cons_append, first?, ← List.cons_append]
    split at found
    · rename_i tail matched
      obtain ⟨rfl, rfl⟩ : [] = before ∧ tail = after := by simpa using found
      have longer : afterPrefix? pattern (value :: rest ++ more) = some (tail ++ more) := by
        rw [afterPrefix?_eq_some_iff] at matched ⊢
        rw [matched, List.append_assoc]
      rw [longer]
    · rename_i missing
      obtain ⟨⟨front, back⟩, inner, same⟩ := Option.map_eq_some_iff.mp found
      obtain ⟨rfl, rfl⟩ : value :: front = before ∧ back = after := by simpa using same
      have whole := congrArg List.length (eq_append_of_first? inner)
      have short : pattern.length ≤ (value :: rest).length := by
        simp only [List.length_append, List.length_cons] at whole ⊢
        omega
      rw [afterPrefix?_append_eq_none more short missing, ih inner]
      rfl

theorem first?_eq_none_iff {α : Type} [DecidableEq α] {pattern list : List α} :
    first? pattern list = none ↔ ¬ pattern <:+: list := by
  induction list with
  | nil =>
    rw [first?, Option.map_eq_none_iff, List.infix_nil, Option.eq_none_iff_forall_not_mem]
    constructor
    · rintro missing rfl
      exact missing [] rfl
    · intro other rest matched
      exact other (List.append_eq_nil_iff.mp (afterPrefix?_eq_some_iff.mp matched).symm).1
  | cons value rest ih =>
    rw [first?, List.infix_cons_iff]
    split
    · rename_i tail matched
      exact ⟨nofun, fun absent =>
        absurd (Or.inl ⟨tail, (afterPrefix?_eq_some_iff.mp matched).symm⟩) absent⟩
    · rename_i missing
      rw [Option.map_eq_none_iff, ih, not_or]
      refine ⟨fun later => ⟨?_, later⟩, And.right⟩
      rintro ⟨tail, same⟩
      rw [afterPrefix?_eq_some_iff.mpr same.symm] at missing
      exact absurd missing (by simp)

/-- A pattern that one more value completes stands at the end. -/
theorem eq_append_of_first?_concat {α : Type} [DecidableEq α] {pattern list before after : List α}
    {value : α} (missing : first? pattern list = none)
    (found : first? pattern (list ++ [value]) = some (before, after)) :
    after = [] ∧ list ++ [value] = before ++ pattern := by
  have whole := eq_append_of_first? found
  rcases List.eq_nil_or_concat after with rfl | ⟨start, last, rfl⟩
  · exact ⟨rfl, by simpa using whole⟩
  · rw [List.concat_eq_append, ← List.append_assoc] at whole
    exact absurd ⟨before, start, (List.append_inj_left' whole rfl).symm⟩
      (first?_eq_none_iff.mp missing)

theorem first?_concat {α : Type} [DecidableEq α] {pattern list before : List α} {value : α}
    (missing : first? pattern list = none) (complete : list ++ [value] = before ++ pattern) :
    first? pattern (list ++ [value]) = some (before, []) := by
  cases found : first? pattern (list ++ [value]) with
  | none => exact absurd ⟨before, [], by simp [complete]⟩ (first?_eq_none_iff.mp found)
  | some cut =>
    obtain ⟨nothing, same⟩ := eq_append_of_first?_concat missing found
    rw [complete] at same
    rw [← nothing, List.append_cancel_right same]

end Split

end LanguageClient
