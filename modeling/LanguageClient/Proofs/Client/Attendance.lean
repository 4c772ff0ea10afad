import LanguageClient.Proofs.Client.Encounter

set_option autoImplicit false

namespace LanguageClient

open Client (Step)

namespace Slot

theorem eq_filled_of_hear {slot : Slot} {answer? : Option Answer} {answer : Answer}
    (filled : slot.hear answer? = .filled answer) :
    slot = .filled answer ∨ answer? = some answer := by
  cases slot with
  | empty =>
    cases answer? with
    | none => cases filled
    | some first =>
      cases filled
      exact .inr rfl
  | filled first => exact .inl filled
  | abandoned => cases filled

theorem eq_filled_of_shut {slot : Slot} {answer : Answer} (filled : slot.shut = .filled answer) :
    slot = .filled answer := by
  cases slot with
  | empty => cases filled
  | filled first => exact filled
  | abandoned => cases filled

end Slot

namespace RequestCall

/-- A result that a call has in its slot, or has returned. -/
def Holds (held : RequestCall) (result : Json) : Prop :=
  held.slot = .filled (.ok result) ∨ held.stage = .returned (.ok result)

/-- A call has a result of before, or from a step that resolves its id while it runs. -/
theorem holds_next {held : RequestCall} {call : Nat} {step : Step} {result : Json}
    (holds : (held.next call step).Holds result) :
    held.Holds result ∨
      held.stage.isOpen = true ∧ step.resolution? held.id = some (.ok result) := by
  have heard (holds : Holds (if held.stage.isOpen then
      { held with slot := held.slot.hear (step.resolution? held.id) } else held) result) :
      held.Holds result ∨
        held.stage.isOpen = true ∧ step.resolution? held.id = some (.ok result) := by
    split at holds
    · rename_i running
      rcases holds with filled | returned
      · rcases Slot.eq_filled_of_hear filled with before | resolved
        · exact .inl (.inl before)
        · exact .inr ⟨running, resolved⟩
      · exact .inl (.inr returned)
    · exact .inl holds
  cases step with
  | sent which outcome =>
    left
    simp only [next] at holds
    split at holds
    · cases outcome with
      | ok =>
        rcases holds with filled | returned
        · exact .inl filled
        · cases returned
      | error error =>
        rcases holds with filled | returned
        · exact .inl (Slot.eq_filled_of_shut filled)
        · cases returned
    · exact holds
  | resume which =>
    left
    simp only [next] at holds
    split at holds
    · rename_i answer filled
      split at holds
      · rcases holds with same | returned
        · exact .inl same
        · cases returned
          exact .inl filled
      · exact holds
    · exact holds
  | drop which =>
    left
    simp only [next] at holds
    split at holds
    · rcases holds with filled | returned
      · exact .inl (Slot.eq_filled_of_shut filled)
      · cases returned
    · exact holds
  | start request => exact heard holds
  | receive event => exact heard holds
  | eventsEnded => exact heard holds
  | setHandler handler name => exact heard holds

theorem stage_next_ne_dropped {held : RequestCall} (kept : held.stage ≠ .dropped) {call : Nat}
    {step : Step} (undropped : step ≠ .drop call) : (held.next call step).stage ≠ .dropped := by
  have heard : (if held.stage.isOpen then
      { held with slot := held.slot.hear (step.resolution? held.id) } else held).stage ≠
        .dropped := by
    split <;> exact kept
  cases step with
  | sent which outcome =>
    simp only [next]
    split
    · cases outcome <;> exact Stage.noConfusion
    · exact kept
  | resume which =>
    simp only [next]
    split
    · split
      · exact Stage.noConfusion
      · exact kept
    · exact kept
  | drop which =>
    have other : which ≠ call := fun same => undropped (by rw [same])
    simpa only [next, other, false_and, if_false] using kept
  | start request => exact heard
  | receive event => exact heard
  | eventsEnded => exact heard
  | setHandler handler name => exact heard

theorem stage_next_sent_ne_sending (held : RequestCall) (call : Nat) :
    (held.next call (.sent call (.ok ()))).stage ≠ .sending := by
  simp only [next, true_and]
  split
  · exact Stage.noConfusion
  · assumption

theorem stage_next_eventsEnded (held : RequestCall) (call : Nat) :
    (held.next call .eventsEnded).stage = held.stage := by
  simp only [next]
  split <;> rfl

end RequestCall

namespace Client

def Settled (client : Client) : Prop := ∀ call id, ¬ client.RunsUnder call id

theorem Settled.transition {client next : Client} {step : Step} (settled : client.Settled)
    (taken : client.Transition step next) (unstarted : step.started? = none) : next.Settled := by
  intro call id runs
  rcases taken.runs_or_starts runs with before | ⟨started, -⟩
  · exact settled call id before
  · rw [unstarted] at started
    cases started

/-- Without a call that runs, a request is refused only by a client that is shut down. -/
theorem Settled.refusal? {client : Client} (settled : client.Settled) (sound : client.Sound)
    (id : Id) : client.refusal? id = client.shutdown.map .transport := by
  unfold Client.refusal?
  cases client.shutdown with
  | some error => rfl
  | none =>
    have free : client.pending? id = none := by
      refine pending?_eq_none_iff.mpr fun entry mem => ?_
      obtain ⟨stage, running, waits⟩ := sound.awaited entry mem
      exact absurd ⟨_, waits, rfl, running⟩ (settled entry.call entry.id)
    rw [free]
    rfl

theorem handed_step_of_unstarted {step : Step} (unstarted : step.started? = none)
    (client : Client) : (client.step step).2.filterMap Effect.handed? = [] := by
  cases closing : step.shutdown? with
  | none => exact (effects_step_of_plain unstarted closing client).2
  | some error =>
    rw [step_of_shutdown? closing]
    unfold shutDown
    split
    · rfl
    · cases client.handlers.shutdown <;> rfl

/-- A client attends to a call: no other call runs, its request was handed over, and the server has
answered it with each result that the call has. -/
structure Attends (client : Client) (history : History) (request : Request) (call : Nat)
    (held : RequestCall) : Prop where
  serves : client.Serves call held
  id : held.id = request.id
  kept : held.stage ≠ .dropped
  alone : ∀ other id, client.RunsUnder other id → other = call
  handed : held.stage.isOpen = true → .handed (.request request) ∈ history
  answered : ∀ result, held.Holds result → history.Answers request result

theorem Attends.transition {client next : Client} {history news : History} {request : Request}
    {call : Nat} {held : RequestCall} {step : Step}
    (attends : client.Attends history request call held) (sound : client.Sound)
    (taken : client.Transition step next) (unstarted : step.started? = none)
    (undropped : step ≠ .drop call)
    (noted : ∀ response, step = .receive (.response response) →
      news = [.heard (.response response)]) :
    next.Attends (history ++ news) request call (held.next call step) where
  serves := attends.serves.transition sound taken
  id := (RequestCall.id_next held call step).trans attends.id
  kept := RequestCall.stage_next_ne_dropped attends.kept undropped
  alone other id runs := by
    rcases taken.runs_or_starts runs with before | ⟨started, -⟩
    · exact attends.alone other id before
    · rw [unstarted] at started
      cases started
  handed running := List.mem_append_left _ (attends.handed (RequestCall.slot_next running).1)
  answered result holds := by
    rcases RequestCall.holds_next holds with before | ⟨running, resolved⟩
    · exact (attends.answered result before).append news
    · rcases Step.resolution?_eq_some resolved with ⟨response, rfl, named, same⟩ | ⟨_, _, same⟩
      · obtain ⟨id, outcome⟩ := response
        cases outcome with
        | error error => cases same
        | ok value =>
          cases same
          rw [noted _ rfl, show id = some request.id from attends.id ▸ named]
          exact History.answers_concat (attends.handed running)
      · cases same

theorem opening_isOpen_iff {client : Client} :
    client.opening.isOpen = true ↔ client.shutdown = none := by
  unfold opening
  cases client.shutdown with
  | none => exact iff_of_true rfl rfl
  | some error => exact iff_of_false Bool.noConfusion (Option.some_ne_none error)

theorem opening_ne_dropped (client : Client) : client.opening ≠ .dropped := by
  unfold opening
  cases client.shutdown <;> exact Stage.noConfusion

theorem not_holds_opening (client : Client) (id : Id) (result : Json) :
    ¬ RequestCall.Holds ⟨id, client.opening, .empty⟩ result := by
  rintro (filled | returned)
  · cases filled
  · unfold opening at returned
    cases recorded : client.shutdown <;> rw [recorded] at returned <;> cases returned

theorem Settled.eq_length_of_starts {client next : Client} (settled : client.Settled)
    {request : Request} (taken : client.Transition (.start request) next) {call : Nat} {id : Id}
    (runs : next.RunsUnder call id) : call = client.calls.length := by
  rcases taken.runs_or_starts runs with before | ⟨-, last⟩
  · exact absurd before (settled call id)
  · exact last

theorem Settled.serves_start {client next : Client} (settled : client.Settled)
    (sound : client.Sound) {request : Request} (taken : client.Transition (.start request) next) :
    next.Serves client.calls.length ⟨request.id, client.opening, .empty⟩ := by
  have alone {other : Nat} : next.RunsUnder other request.id → other = client.calls.length :=
    settled.eq_length_of_starts taken
  cases taken with
  | refuse refused =>
    rw [settled.refusal? sound, Option.map_eq_some_iff] at refused
    obtain ⟨error, recorded, rfl⟩ := refused
    have ended : client.opening = .returned (.error (.transport error)) := by
      simp [opening, recorded]
    rw [ended]
    exact ⟨List.getElem?_concat_length, fun running => Bool.noConfusion running⟩
  | register accepted =>
    have begun : client.opening = .sending := by
      simp [opening, (refusal?_eq_none_iff.mp accepted).1]
    rw [begun]
    have pending : ⟨request.id, client.calls.length⟩ ∈ (client.register request.id).pending :=
      List.mem_append_right _ (List.mem_singleton.mpr rfl)
    exact ⟨List.getElem?_concat_length, fun _ => .inl ⟨rfl, pending, fun _ => alone⟩⟩
  | close closing running => cases closing
  | idle nothing handlers => exact nothing.elim

theorem Settled.attends_start {client next : Client} {history : History} {request : Request}
    (settled : client.Settled) (sound : client.Sound)
    (taken : client.Transition (.start request) next)
    (handed : client.shutdown = none → .handed (.request request) ∈ history) :
    next.Attends history request client.calls.length
      ⟨request.id, client.opening, .empty⟩ where
  serves := settled.serves_start sound taken
  id := rfl
  kept := client.opening_ne_dropped
  alone _ _ := settled.eq_length_of_starts taken
  handed running := handed (opening_isOpen_iff.mp running)
  answered result holds := absurd holds (client.not_holds_opening request.id result)

theorem Attends.settled {client : Client} {history : History} {request : Request} {call : Nat}
    {held : RequestCall} (attends : client.Attends history request call held) {answer : Answer}
    (returned : held.stage = .returned answer) : client.Settled := by
  intro other id runs
  have own := attends.alone other id runs
  subst own
  obtain ⟨record, made, -, running⟩ := runs
  rw [attends.serves.made, Option.some.injEq] at made
  rw [← made, returned] at running
  cases running

/-- A call that is sent, and is not pending any more, returns when it is resumed. -/
theorem Serves.exists_returned {client : Client} {call : Nat} {held : RequestCall}
    (serves : client.Serves call held) (kept : held.stage ≠ .dropped)
    (unsent : held.stage ≠ .sending) (drained : client.pending = []) :
    ∃ answer, (held.next call (.resume call)).stage = .returned answer := by
  obtain ⟨id, stage, slot⟩ := held
  cases stage with
  | sending => exact absurd rfl unsent
  | waiting =>
    rcases serves.heard rfl with ⟨-, pending, -⟩ | ⟨answer, filled⟩
    · rw [drained] at pending
      cases pending
    · simp only at filled
      exact ⟨answer, by simp [RequestCall.next, filled]⟩
  | returned answer => exact ⟨answer, by rw [RequestCall.next_of_closed rfl]⟩
  | dropped => exact absurd rfl kept

end Client

end LanguageClient
