import LanguageClient.Proofs.Client.Isolation
import LanguageClient.Proofs.Client.SingleCall

set_option autoImplicit false

namespace LanguageClient

namespace Client

/-- A client serves a call if the call is as it says and, while it runs, is either answered, or
pending under an id that no other running call has. -/
structure Serves (client : Client) (call : Nat) (held : RequestCall) : Prop where
  made : client.calls[call]? = some held
  heard : held.stage.isOpen = true →
    (held.slot = .empty ∧ ⟨held.id, call⟩ ∈ client.pending ∧ client.Unshared ⟨held.id, call⟩) ∨
      ∃ answer, held.slot = .filled answer

theorem Serves.deaf {client : Client} {call : Nat} {held : RequestCall} {step : Step}
    (serves : client.Serves call held)
    (spared : ⟨held.id, call⟩ ∈ client.pending → step.resolution? held.id = none)
    (running : held.stage.isOpen = true) :
    held.slot.hear (step.resolution? held.id) = held.slot := by
  rcases serves.heard running with ⟨-, mem, -⟩ | ⟨answer, filled⟩
  · rw [spared mem, Slot.hear_none]
  · rw [filled]
    rfl

/-- A call that gives up leaves another call as it is, and shuts its own slot. -/
theorem Serves.getElem?_withdraw {client : Client} {call which : Nat} {held record : RequestCall}
    (serves : client.Serves call held) (sound : client.Sound)
    (made : client.calls[which]? = some record) (running : record.stage.isOpen = true)
    (stage : Stage) :
    ((client.remove record.id).setStage which stage).calls[call]? =
      some (if which = call then ⟨held.id, stage, held.slot.shut⟩ else held) := by
  by_cases own : which = call
  · subst own
    rw [serves.made, Option.some.injEq] at made
    subst made
    rw [getElem?_setStage, getElem?_remove, serves.made]
    simp only [Option.map_some, if_true, Option.some.injEq]
    obtain ⟨id, before, slot⟩ := held
    rcases serves.heard running with ⟨empty, mem, -⟩ | ⟨answer, filled⟩
    · have found := pending?_of_mem sound.distinct mem
      simp only at empty found
      simp [empty, found, Slot.shut]
    · simp only at filled
      simp [filled, Slot.shut]
  · rw [getElem?_setStage_of_ne _ _ own, getElem?_remove, serves.made, Option.map_some, if_neg,
      if_neg own]
    intro marked
    obtain ⟨⟨entry, found, here⟩, empty⟩ := marked
    obtain ⟨inside, named⟩ := pending?_eq_some found
    obtain ⟨stage, unfinished, waits⟩ := sound.awaited entry inside
    rw [here, serves.made, Option.some.injEq] at waits
    have same : record.id = held.id := by rw [waits, ← named]
    have still : held.stage.isOpen = true := by rw [waits]; exact unfinished
    rcases serves.heard still with ⟨-, -, unshared⟩ | ⟨answer, filled⟩
    · exact own (unshared which ⟨record, made, same, running⟩)
    · rw [filled] at empty
      cases empty

/-- A response is heard by the call that is pending under its id, and by no other one. -/
theorem Serves.getElem?_respond {client : Client} {call : Nat} {held : RequestCall}
    {response : Response} {id : Id} {entry : Pending} (serves : client.Serves call held)
    (sound : client.Sound) (named : response.id = some id)
    (found : client.pending? id = some entry) :
    ((client.forget id).fill entry.call (response.result.mapError .server)).calls[call]? =
      some (held.next call (.receive (.response response))) := by
  obtain ⟨inside, same⟩ := pending?_eq_some found
  obtain ⟨stage, running, waits⟩ := sound.awaited entry inside
  by_cases own : entry.call = call
  · rw [own, serves.made, Option.some.injEq] at waits
    subst waits
    rw [getElem?_fill]
    change (client.calls[call]?).map _ = _
    rw [serves.made]
    simp [own, RequestCall.next, running, Step.resolution?, named, same, Slot.hear]
  · rw [getElem?_fill_of_ne _ _ own]
    have spared : ⟨held.id, call⟩ ∈ client.pending →
        (Step.receive (.response response)).resolution? held.id = none := by
      refine fun mem => if_neg fun also => ?_
      have waits := pending?_of_mem sound.distinct mem
      rw [named, Option.some.injEq] at also
      rw [← show id = held.id from also, found, Option.some.injEq] at waits
      exact own (by rw [waits])
    rw [RequestCall.next_receive_of_deaf (serves.deaf spared)]
    exact serves.made

theorem Serves.getElem?_closeWith {client : Client} {call : Nat} {held : RequestCall} {step : Step}
    {error : TransportError} (serves : client.Serves call held) (sound : client.Sound)
    (closing : step.shutdown? = some error) :
    (client.closeWith error).calls[call]? = some (held.next call step) := by
  rw [Client.getElem?_closeWith, serves.made, Option.map_some]
  by_cases waits : ∃ entry ∈ client.pending, entry.call = call
  · obtain ⟨entry, inside, rfl⟩ := waits
    obtain ⟨stage, unfinished, empty⟩ := sound.awaited entry inside
    rw [serves.made, Option.some.injEq] at empty
    rw [if_pos ⟨entry, inside, rfl⟩, RequestCall.next_of_shutdown? closing]
    simp [empty, unfinished, Slot.hear]
  · rw [if_neg waits, RequestCall.next_of_shutdown? closing]
    split
    · rename_i unfinished
      rcases serves.heard unfinished with ⟨-, mem, -⟩ | ⟨answer, filled⟩
      · exact absurd ⟨_, mem, rfl⟩ waits
      · obtain ⟨id, stage, slot⟩ := held
        cases filled
        rfl
    · rfl

theorem Serves.next_of_idle {client : Client} {call : Nat} {held : RequestCall} {step : Step}
    (serves : client.Serves call held) (sound : client.Sound) (nothing : client.Idle step) :
    held.next call step = held := by
  refine RequestCall.next_eq_self ?_ ?_ ?_ ?_
  · intro result same sending
    subst same
    obtain ⟨id, stage, slot⟩ := held
    exact nothing id slot (sending ▸ serves.made)
  · intro same waiting answer filled
    subst same
    obtain ⟨id, stage, slot⟩ := held
    have empty := nothing id slot (waiting ▸ serves.made)
    rw [empty] at filled
    cases filled
  · intro same
    subst same
    exact nothing held serves.made
  · exact serves.deaf fun mem => (sound.spared_of_idle mem nothing).1

theorem Serves.made_transition {client next : Client} {call : Nat} {held : RequestCall}
    {step : Step} (serves : client.Serves call held) (sound : client.Sound)
    (taken : client.Transition step next) :
    next.calls[call]? = some (held.next call step) := by
  cases taken with
  | refuse refused =>
    rw [RequestCall.next_start]
    exact getElem?_addCall_of_some _ _ serves.made
  | register accepted =>
    rw [RequestCall.next_start]
    exact getElem?_addCall_of_some _ _ serves.made
  | deliver sending =>
    rename_i which id slot
    rw [getElem?_setStage, serves.made, Option.map_some]
    by_cases own : which = call
    · subst own
      rw [serves.made, Option.some.injEq] at sending
      simp [RequestCall.next, sending]
    · simp [RequestCall.next, own]
  | fail sending =>
    rename_i which id slot error
    rw [serves.getElem?_withdraw sound sending rfl]
    by_cases own : which = call
    · subst own
      rw [serves.made, Option.some.injEq] at sending
      simp [RequestCall.next, sending]
    · simp [RequestCall.next, own]
  | cancel made running =>
    rename_i which record
    rw [serves.getElem?_withdraw sound made running]
    by_cases own : which = call
    · subst own
      rw [serves.made, Option.some.injEq] at made
      simp [RequestCall.next, made, running]
    · simp [RequestCall.next, own]
  | answer ready =>
    rename_i which id found
    rw [getElem?_setStage, serves.made, Option.map_some]
    by_cases own : which = call
    · subst own
      rw [serves.made, Option.some.injEq] at ready
      simp [RequestCall.next, ready]
    · rw [RequestCall.next_resume_of_ne own, if_neg own]
  | forsake forsaken =>
    rename_i which id
    have other : which ≠ call := by
      intro same
      subst same
      rw [serves.made, Option.some.injEq] at forsaken
      subst forsaken
      rcases serves.heard rfl with ⟨empty, -⟩ | ⟨answer, filled⟩
      · cases empty
      · cases filled
    rw [getElem?_setStage_of_ne _ _ other, serves.made, RequestCall.next_resume_of_ne other]
  | respond named found =>
    exact serves.getElem?_respond sound named found
  | close closing running =>
    exact serves.getElem?_closeWith sound closing
  | idle nothing handlers =>
    rw [serves.next_of_idle sound nothing]
    exact serves.made

/-- A served call is served through every step, also when later calls have its id. -/
theorem Serves.transition {client next : Client} {call : Nat} {held : RequestCall} {step : Step}
    (serves : client.Serves call held) (sound : client.Sound)
    (taken : client.Transition step next) : next.Serves call (held.next call step) := by
  refine ⟨serves.made_transition sound taken, fun running => ?_⟩
  obtain ⟨before, heard⟩ := RequestCall.slot_next running
  rw [heard, RequestCall.id_next]
  rcases serves.heard before with ⟨empty, mem, unshared⟩ | ⟨answer, filled⟩
  · rw [empty]
    cases resolved : step.resolution? held.id with
    | some answer => exact .inr ⟨answer, rfl⟩
    | none =>
      have stays : ¬ client.Withdraws held.id step := by
        intro gives
        -- The call that gives up is the call itself, which then runs no more.
        cases step with
        | sent which result =>
          cases result with
          | ok => exact gives
          | error error =>
            obtain ⟨slot, sending⟩ := gives
            have own : which = call := unshared which ⟨_, sending, rfl, rfl⟩
            subst own
            rw [serves.made, Option.some.injEq] at sending
            rw [sending] at running
            simp [RequestCall.next, Stage.isOpen] at running
        | drop which =>
          have own : which = call := unshared which gives
          subst own
          have ended : held.next which (.drop which) = ⟨held.id, .dropped, held.slot.shut⟩ := by
            simp [RequestCall.next, before]
          rw [ended] at running
          cases running
        | start request => exact gives
        | resume which => exact gives
        | receive event => exact gives
        | eventsEnded => exact gives
        | setHandler handler name => exact gives
      exact .inl ⟨rfl, (sound.mem_transition_iff mem taken).mpr ⟨resolved, stays⟩,
        unshared.transition sound mem taken⟩
  · rw [filled]
    exact .inr ⟨answer, rfl⟩

theorem Serves.run {client : Client} {call : Nat} {held : RequestCall}
    (serves : client.Serves call held) (sound : client.Sound) (steps : List Step) :
    (client.run steps).1.Serves call (held.run call steps) := by
  induction steps generalizing client held with
  | nil => exact serves
  | cons step rest ih =>
    exact ih (serves.transition sound (client.transition_step step)) (sound.step step)

theorem Serves.answer?_eq_some_iff {client : Client} {call : Nat} {held : RequestCall}
    (serves : client.Serves call held) {answer : Answer} :
    client.answer? call = some answer ↔ held.stage = .returned answer := by
  rw [Client.answer?_eq_some_iff, serves.made]
  obtain ⟨id, stage, slot⟩ := held
  simp

/-! ### Calls of an id of their own -/

/-- A client follows a call if the call is as it says, is the only one of its id, and, while it
runs, is either answered or pending. -/
structure Follows (client : Client) (call : Nat) (held : RequestCall) : Prop where
  made : client.calls[call]? = some held
  alone : ∀ other, (client.calls.map RequestCall.id)[other]? = some held.id → other = call
  heard : held.stage.isOpen = true →
    (held.slot = .empty ∧ ⟨held.id, call⟩ ∈ client.pending) ∨ ∃ answer, held.slot = .filled answer

theorem Follows.serves {client : Client} {call : Nat} {held : RequestCall}
    (follows : client.Follows call held) : client.Serves call held := by
  refine ⟨follows.made, fun running => ?_⟩
  have unshared : client.Unshared ⟨held.id, call⟩ := by
    intro other runs
    obtain ⟨record, made, same, -⟩ := runs
    exact follows.alone other (by rw [List.getElem?_map, made, Option.map_some, same])
  rcases follows.heard running with ⟨empty, mem⟩ | filled
  · exact .inl ⟨empty, mem, unshared⟩
  · exact .inr filled

theorem Follows.transition {client next : Client} {call : Nat} {held : RequestCall} {step : Step}
    (follows : client.Follows call held) (sound : client.Sound)
    (fresh : step.started? ≠ some held.id) (taken : client.Transition step next) :
    next.Follows call (held.next call step) where
  made := follows.serves.made_transition sound taken
  alone other same := by
    rw [taken.ids, RequestCall.id_next, List.getElem?_append] at same
    split at same
    · exact follows.alone other same
    · have new := List.mem_of_getElem? same
      exact absurd (Option.mem_toList.mp new) fresh
  heard running := by
    rcases (follows.serves.transition sound taken).heard running with ⟨empty, mem, -⟩ | filled
    · exact .inl ⟨empty, mem⟩
    · exact .inr filled

theorem Follows.run {client : Client} {call : Nat} {held : RequestCall}
    (follows : client.Follows call held) (sound : client.Sound) (steps : List Step)
    (fresh : held.id ∉ steps.filterMap Step.started?) :
    (client.run steps).1.Follows call (held.run call steps) := by
  induction steps generalizing client held with
  | nil => exact follows
  | cons step rest ih =>
    have now : step.started? ≠ some held.id := fun same => fresh (by simp [same])
    have later : (held.next call step).id ∉ rest.filterMap Step.started? := by
      rw [RequestCall.id_next]
      intro inside
      refine fresh ?_
      rw [List.mem_filterMap] at inside ⊢
      obtain ⟨other, mem, same⟩ := inside
      exact ⟨other, List.mem_cons_of_mem _ mem, same⟩
    exact ih (follows.transition sound now (client.transition_step step)) (sound.step step) later

/-- A request under an id that no call has had is refused only by a client that is shut down. -/
theorem Sound.refusal?_of_fresh {client : Client} (sound : client.Sound) {id : Id}
    (fresh : id ∉ client.calls.map RequestCall.id) :
    client.refusal? id = client.shutdown.map .transport := by
  unfold refusal?
  cases client.shutdown with
  | some error => rfl
  | none =>
    have free : client.pending? id = none := by
      refine pending?_eq_none_iff.mpr fun entry mem same => fresh ?_
      obtain ⟨stage, -, waits⟩ := sound.awaited entry mem
      exact List.mem_map.mpr ⟨_, List.mem_of_getElem? waits, same⟩
    rw [free]
    rfl

def opening (client : Client) : Stage :=
  match client.shutdown with
  | some error => .returned (.error (.transport error))
  | none => .sending

theorem Sound.follows_start {client next : Client} (sound : client.Sound) {request : Request}
    (fresh : request.id ∉ client.calls.map RequestCall.id)
    (taken : client.Transition (.start request) next) :
    next.Follows client.calls.length ⟨request.id, client.opening, .empty⟩ := by
  have refusal := sound.refusal?_of_fresh fresh
  have alone : ∀ other, (next.calls.map RequestCall.id)[other]? = some request.id →
      other = client.calls.length := by
    intro other same
    rw [taken.ids, List.getElem?_append] at same
    split at same
    · exact absurd (List.mem_of_getElem? same) fresh
    · rename_i outside
      have inside := (List.getElem?_eq_some_iff.mp same).1
      simp only [Step.started?, Option.toList_some, List.length_singleton,
        List.length_map] at inside outside
      omega
  cases taken with
  | refuse refused =>
    rw [refusal, Option.map_eq_some_iff] at refused
    obtain ⟨error, recorded, rfl⟩ := refused
    have ended : client.opening = .returned (.error (.transport error)) := by
      simp [opening, recorded]
    rw [ended]
    refine ⟨List.getElem?_concat_length, alone, ?_⟩
    intro running
    cases running
  | register accepted =>
    have begun : client.opening = .sending := by
      simp [opening, (refusal?_eq_none_iff.mp accepted).1]
    rw [begun]
    refine ⟨List.getElem?_concat_length, alone, ?_⟩
    intro _
    exact .inl ⟨rfl, List.mem_append_right _ (List.mem_singleton.mpr rfl)⟩
  | close closing running => cases closing
  | idle nothing handlers => exact nothing.elim

/-! ### Answers -/

theorem Follows.answer?_eq_some_iff {client : Client} {call : Nat} {held : RequestCall}
    (follows : client.Follows call held) {answer : Answer} :
    client.answer? call = some answer ↔ held.stage = .returned answer :=
  follows.serves.answer?_eq_some_iff

end Client

end LanguageClient
