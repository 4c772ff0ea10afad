import LanguageClient.Proofs.Client.Pending

set_option autoImplicit false

/-!
What one call can do to the pending request of another. Requests are taken off the list by their ids
alone, so a call that is answered but has not returned yet still reaches the request that a later
call has registered under the same id.
-/

namespace LanguageClient

/-- The steps that may end a pending request: a response with its id, the shutdown of the
connection, the failed send of its call, and that its call is given up. -/
def Pending.EndedBy (entry : Pending) (step : Client.Step) : Prop :=
  (step.resolution? entry.id).isSome = true ∨
    (∃ error, step = .sent entry.call (.error error)) ∨ step = .drop entry.call

namespace Client

def RunsUnder (client : Client) (call : Nat) (id : Id) : Prop :=
  ∃ held, client.calls[call]? = some held ∧ held.id = id ∧ held.stage.isOpen = true

/-- The steps in which a call that runs under an id takes this id off the list. -/
def Withdraws (client : Client) (id : Id) : Step → Prop
  | .sent call (.error _) => ∃ slot, client.calls[call]? = some ⟨id, .sending, slot⟩
  | .drop call => client.RunsUnder call id
  | _ => False

/-- No other call still runs under the id of a pending request. -/
def Unshared (client : Client) (entry : Pending) : Prop :=
  ∀ call, client.RunsUnder call entry.id → call = entry.call

theorem Sound.spared_of_idle {client : Client} {step : Step} {entry : Pending}
    (sound : client.Sound) (mem : entry ∈ client.pending) (nothing : client.Idle step) :
    step.resolution? entry.id = none ∧ ¬ client.Withdraws entry.id step := by
  have running : client.shutdown = none := by
    cases recorded : client.shutdown with
    | none => rfl
    | some error =>
      rw [sound.drained (by rw [recorded]; exact nofun)] at mem
      cases mem
  cases step with
  | start request => exact nothing.elim
  | sent call result =>
    refine ⟨rfl, ?_⟩
    cases result with
    | ok => exact id
    | error error =>
      intro sends
      obtain ⟨slot, sending⟩ := sends
      exact nothing entry.id slot sending
  | resume call => exact ⟨rfl, id⟩
  | drop call =>
    refine ⟨rfl, ?_⟩
    intro runs
    obtain ⟨held, made, -, unfinished⟩ := runs
    rw [nothing held made] at unfinished
    cases unfinished
  | receive event =>
    cases event with
    | response response =>
      refine ⟨if_neg fun named => ?_, id⟩
      have unknown := nothing entry.id named
      rw [pending?_of_mem sound.distinct mem] at unknown
      cases unknown
    | notification notification => exact ⟨rfl, id⟩
    | errorOutput text => exact ⟨rfl, id⟩
    | closed error => exact absurd running nothing
  | eventsEnded => exact absurd running nothing
  | setHandler handler name => exact ⟨rfl, id⟩

/-- A pending request stays through exactly those steps that neither resolve its id nor let a call
of this id give up. -/
theorem Sound.mem_transition_iff {client next : Client} {step : Step} {entry : Pending}
    (sound : client.Sound) (mem : entry ∈ client.pending)
    (taken : client.Transition step next) :
    entry ∈ next.pending ↔
      step.resolution? entry.id = none ∧ ¬ client.Withdraws entry.id step := by
  cases taken with
  | refuse refused => exact ⟨fun _ => ⟨rfl, id⟩, fun _ => mem⟩
  | register accepted => exact ⟨fun _ => ⟨rfl, id⟩, fun _ => List.mem_append_left _ mem⟩
  | deliver sending => exact ⟨fun _ => ⟨rfl, id⟩, fun _ => mem⟩
  | fail sending =>
    rename_i call id slot error
    change entry ∈ (client.remove id).pending ↔ _
    rw [pending_remove, mem_forget sound.distinct]
    constructor
    · intro both
      obtain ⟨-, apart⟩ := both
      refine ⟨rfl, ?_⟩
      intro also
      obtain ⟨other, made⟩ := also
      rw [sending, Option.some.injEq, RequestCall.mk.injEq] at made
      exact apart made.1.symm
    · intro both
      obtain ⟨-, spared⟩ := both
      refine ⟨mem, ?_⟩
      intro same
      subst same
      exact spared ⟨slot, sending⟩
  | cancel made running =>
    rename_i call held
    change entry ∈ (client.remove held.id).pending ↔ _
    rw [pending_remove, mem_forget sound.distinct]
    constructor
    · intro both
      obtain ⟨-, apart⟩ := both
      refine ⟨rfl, ?_⟩
      intro both
      obtain ⟨other, also, named, -⟩ := both
      rw [made, Option.some.injEq] at also
      exact apart (by rw [also, named])
    · intro both
      obtain ⟨-, spared⟩ := both
      exact ⟨mem, fun same => spared ⟨held, made, same.symm, running⟩⟩
  | answer ready => exact ⟨fun _ => ⟨rfl, id⟩, fun _ => mem⟩
  | forsake forsaken => exact ⟨fun _ => ⟨rfl, id⟩, fun _ => mem⟩
  | respond named found =>
    rename_i response id first
    change entry ∈ (client.forget id).pending ↔ _
    rw [mem_forget sound.distinct]
    constructor
    · intro both
      obtain ⟨-, apart⟩ := both
      refine ⟨if_neg fun same => ?_, fun absent => absent⟩
      rw [named, Option.some.injEq] at same
      exact apart same.symm
    · intro both
      obtain ⟨unresolved, -⟩ := both
      refine ⟨mem, fun same => ?_⟩
      rw [Step.resolution?, if_pos (same ▸ named)] at unresolved
      cases unresolved
  | close closing running =>
    rw [pending_closeWith, Step.resolution?_of_shutdown? closing]
    constructor
    · intro stays
      cases stays
    · intro both
      obtain ⟨unresolved, -⟩ := both
      cases unresolved
  | idle nothing handlers => exact ⟨fun _ => sound.spared_of_idle mem nothing, fun _ => mem⟩

theorem Transition.runs_or_starts {client next : Client} {step : Step}
    (taken : client.Transition step next) {call : Nat} {id : Id} (runs : next.RunsUnder call id) :
    client.RunsUnder call id ∨ step.started? = some id ∧ call = client.calls.length := by
  obtain ⟨after, made, rfl, running⟩ := runs
  cases before : client.calls[call]? with
  | some held =>
    obtain ⟨same, also, named, ran | kept⟩ := taken.keeps before
    · rw [made, Option.some.injEq] at also
      exact .inl ⟨held, before, by rw [also, named], ran⟩
    · rw [made, Option.some.injEq] at also
      subst also
      exact .inl ⟨held, before, named.symm, kept ▸ running⟩
  | none =>
    have outside := List.getElem?_eq_none_iff.mp before
    have named : (next.calls.map RequestCall.id)[call]? = some after.id := by
      rw [List.getElem?_map, made, Option.map_some]
    rw [taken.ids, List.getElem?_append_right (by simpa using outside)] at named
    cases started : step.started? with
    | none => simp [started] at named
    | some id =>
      rw [started, List.length_map, Option.toList_some, List.getElem?_singleton,
        Option.ite_none_right_eq_some] at named
      exact .inr ⟨named.2, by omega⟩

theorem Transition.runs_before {client next : Client} {step : Step}
    (taken : client.Transition step next) {call : Nat} {id : Id} (runs : next.RunsUnder call id) :
    client.RunsUnder call id ∨ client.pending? id = none := by
  rcases taken.runs_or_starts runs with before | ⟨started, rfl⟩
  · exact .inl before
  · obtain ⟨held, made, rfl, running⟩ := runs
    cases taken with
    | refuse refused =>
      rw [eq_of_getElem?_addCall (List.getElem?_eq_none_iff.mpr (Nat.le_refl _)) made] at running
      cases running
    | register accepted =>
      rw [eq_of_getElem?_addCall (List.getElem?_eq_none_iff.mpr (Nat.le_refl _)) made]
      exact .inr (refusal?_eq_none_iff.mp accepted).2
    | close closing up =>
      cases step <;> first | cases started | cases closing
    | idle nothing handlers =>
      cases step <;> first | cases started | exact nothing.elim
    | deliver sending => cases started
    | fail sending => cases started
    | cancel made running => cases started
    | answer ready => cases started
    | forsake forsaken => cases started
    | respond named found => cases started

/-- While a request is pending, no call can begin to run under its id. -/
theorem Unshared.transition {client next : Client} {step : Step} {entry : Pending}
    (unshared : client.Unshared entry) (sound : client.Sound) (mem : entry ∈ client.pending)
    (taken : client.Transition step next) : next.Unshared entry := by
  intro call runs
  rcases taken.runs_before runs with before | free
  · exact unshared call before
  · rw [pending?_of_mem sound.distinct mem] at free
    cases free

theorem Unshared.mem_run {client : Client} {entry : Pending} (unshared : client.Unshared entry)
    (sound : client.Sound) (mem : entry ∈ client.pending) (rest : List Step)
    (spared : ∀ step ∈ rest, ¬ entry.EndedBy step) : entry ∈ (client.run rest).1.pending := by
  induction rest generalizing client with
  | nil => exact mem
  | cons step rest ih =>
    obtain ⟨now, later⟩ := List.forall_mem_cons.mp spared
    have unresolved : step.resolution? entry.id = none := by
      cases resolved : step.resolution? entry.id with
      | none => rfl
      | some answer => exact absurd (.inl (by rw [resolved]; rfl)) now
    have stays : ¬ client.Withdraws entry.id step := by
      cases step with
      | sent call result =>
        cases result with
        | ok => exact id
        | error error =>
          intro sends
          obtain ⟨slot, sending⟩ := sends
          have own : call = entry.call := unshared call ⟨_, sending, rfl, rfl⟩
          exact now (.inr (.inl ⟨error, by rw [own]⟩))
      | drop call =>
        intro runs
        have own : call = entry.call := unshared call runs
        exact now (.inr (.inr (by rw [own])))
      | start request => exact id
      | resume call => exact id
      | receive event => exact id
      | eventsEnded => exact id
      | setHandler handler name => exact id
    have next : entry ∈ (client.step step).1.pending :=
      (sound.mem_transition_iff mem (client.transition_step step)).mpr ⟨unresolved, stays⟩
    exact ih (unshared.transition sound mem (client.transition_step step)) (sound.step step) next
      later

/-- A pending request is safe from other calls, whatever comes, if and only if none of them still
runs under its id. In any case it is taken off the list by those steps that resolve its id, and by
those in which a call that runs under this id gives up. -/
theorem pending_safe_iff_unshared (steps : List Step) {entry : Pending}
    (pending : entry ∈ (run {} steps).1.pending) :
    ((∀ rest, (∀ step ∈ rest, ¬ entry.EndedBy step) →
        entry ∈ ((run {} steps).1.run rest).1.pending ∧
          ∃ stage : Stage, stage.isOpen = true ∧
            ((run {} steps).1.run rest).1.calls[entry.call]? = some ⟨entry.id, stage, .empty⟩) ↔
      (run {} steps).1.Unshared entry) ∧
    ∀ step, entry ∉ ((run {} steps).1.step step).1.pending ↔
      (step.resolution? entry.id).isSome = true ∨ (run {} steps).1.Withdraws entry.id step := by
  have sound : (run {} steps).1.Sound := sound_new.run steps
  have exactly (step : Step) := sound.mem_transition_iff pending (transition_step _ step)
  refine ⟨⟨?_, ?_⟩, ?_⟩
  · intro safe call runs
    refine Decidable.byContradiction fun other => ?_
    have spared : ∀ step ∈ [Step.drop call], ¬ entry.EndedBy step := by
      intro step only
      rw [List.mem_singleton.mp only]
      intro either
      rcases either with resolved | ⟨error, same⟩ | same
      · cases resolved
      · cases same
      · cases same
        exact other rfl
    exact ((exactly (.drop call)).mp (safe _ spared).1).2 runs
  · intro unshared rest spared
    have stays := unshared.mem_run sound pending rest spared
    exact ⟨stays, (sound.run rest).awaited entry stays⟩
  · intro step
    rw [exactly step, ← Option.isNone_iff_eq_none, ← Option.not_isSome]
    constructor
    · intro gone
      by_cases resolved : (step.resolution? entry.id).isSome = true
      · exact .inl resolved
      · exact .inr (Classical.byContradiction fun stays => gone ⟨by simpa using resolved, stays⟩)
    · intro ended both
      obtain ⟨unresolved, stays⟩ := both
      rcases ended with resolved | gives
      · simp [resolved] at unresolved
      · exact stays gives

/-- The first call has returned, so that the second one has the id for itself. -/
theorem pending_safe_after_return :
    let request : Request := ⟨.number 1, "textDocument/hover", none⟩
    let steps : List Step := [.start request, .sent 0 (.ok ()),
      .receive (.response ⟨some (.number 1), .ok .null⟩), .resume 0, .start request]
    let entry : Pending := ⟨.number 1, 1⟩
    entry ∈ (run {} steps).1.pending ∧ (run {} steps).1.Unshared entry ∧
      ∀ rest, (∀ step ∈ rest, ¬ entry.EndedBy step) →
        entry ∈ ((run {} steps).1.run rest).1.pending ∧
          ∃ stage : Stage, stage.isOpen = true ∧
            ((run {} steps).1.run rest).1.calls[entry.call]? = some ⟨entry.id, stage, .empty⟩ := by
  intro request steps entry
  have pending : entry ∈ (run {} steps).1.pending := by decide
  have unshared : (run {} steps).1.Unshared entry := by
    intro call runs
    obtain ⟨held, made, -, running⟩ := runs
    match call with
    | 0 =>
      cases made
      cases running
    | 1 => rfl
    | other + 2 => cases made
  exact ⟨pending, unshared, (pending_safe_iff_unshared steps pending).1.mpr unshared⟩

/-- The first call is answered while its message is still on the way, and a second one takes up its
id. When the first is given up, or its send fails, the second loses its pending request, and returns
without a response of the server and without a shutdown. -/
theorem pending_lost_to_answered_call :
    let request : Request := ⟨.number 1, "textDocument/hover", none⟩
    let steps : List Step := [.start request,
      .receive (.response ⟨some (.number 1), .ok .null⟩), .start request]
    let entry : Pending := ⟨.number 1, 1⟩
    entry ∈ (run {} steps).1.pending ∧
      ¬ entry.EndedBy (.drop 0) ∧ ¬ entry.EndedBy (.sent 0 (.error (.closed "broken"))) ∧
      entry ∉ ((run {} steps).1.step (.drop 0)).1.pending ∧
      entry ∉ ((run {} steps).1.step (.sent 0 (.error (.closed "broken")))).1.pending ∧
      (run {} (steps ++ [.drop 0, .sent 1 (.ok ()), .resume 1])).1.answer? 1 =
        some (.error unanswered) := by
  refine ⟨by decide, ?_, ?_, by decide, by decide, by decide⟩
  · intro either
    rcases either with resolved | ⟨error, same⟩ | same
    · cases resolved
    · cases same
    · cases same
  · intro either
    rcases either with resolved | ⟨error, same⟩ | same
    · cases resolved
    · cases same
    · cases same

end Client

end LanguageClient
