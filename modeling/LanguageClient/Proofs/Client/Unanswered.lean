import LanguageClient.Proofs.Client.Isolation

set_option autoImplicit false

namespace LanguageClient

namespace Client

def Unanswered (client : Client) (call : Nat) (id : Id) : Prop :=
  ∃ stage : Stage, stage.isOpen = true ∧ client.calls[call]? = some ⟨id, stage, .empty⟩

/-- Every call without an answer is pending. -/
def Tracked (client : Client) : Prop :=
  ∀ call id, client.Unanswered call id → ⟨id, call⟩ ∈ client.pending

theorem tracked_new : Tracked {} := by
  rintro call id ⟨stage, -, made⟩
  cases made

/-- A step that takes no request off the list and leaves a call without an answer only if it had
none before. -/
theorem Tracked.of_frame {client next : Client} (tracked : client.Tracked)
    (kept : client.pending ⊆ next.pending)
    (same : ∀ call id, next.Unanswered call id → client.Unanswered call id) : next.Tracked :=
  fun call id unanswered => kept (tracked call id (same call id unanswered))

theorem Unanswered.of_setStage {client : Client} {call which : Nat} {id : Id}
    {held : RequestCall} {stage : Stage} (made : client.calls[which]? = some held)
    (running : stage.isOpen = true → held.stage.isOpen = true)
    (unanswered : (client.setStage which stage).Unanswered call id) :
    client.Unanswered call id := by
  obtain ⟨after, unfinished, same⟩ := unanswered
  by_cases here : which = call
  · subst here
    rw [getElem?_setStage, made, Option.map_some, if_pos rfl, Option.some.injEq,
      RequestCall.mk.injEq] at same
    obtain ⟨named, moved, empty⟩ := same
    refine ⟨held.stage, running (moved ▸ unfinished), ?_⟩
    rw [made, ← named, ← empty]
  · rw [getElem?_setStage_of_ne _ _ here] at same
    exact ⟨after, unfinished, same⟩

theorem Tracked.addCall {client : Client} (tracked : client.Tracked) (id : Id) {stage : Stage}
    (ended : stage.isOpen = false) : (client.addCall id stage).Tracked := by
  refine tracked.of_frame (fun _ mem => mem) ?_
  rintro call name ⟨after, running, made⟩
  cases before : client.calls[call]? with
  | some held =>
    rw [getElem?_addCall_of_some id stage before] at made
    exact ⟨after, running, before.trans made⟩
  | none =>
    have new := eq_of_getElem?_addCall before made
    rw [RequestCall.mk.injEq] at new
    rw [new.2.1, ended] at running
    cases running

theorem Tracked.register {client : Client} (tracked : client.Tracked) (id : Id) :
    (client.register id).Tracked := by
  rintro call name ⟨after, running, made⟩
  change (client.addCall id .sending).calls[call]? = _ at made
  cases before : client.calls[call]? with
  | some held =>
    rw [getElem?_addCall_of_some id .sending before] at made
    exact List.mem_append_left _ (tracked call name ⟨after, running, before.trans made⟩)
  | none =>
    have new := eq_of_getElem?_addCall before made
    rw [RequestCall.mk.injEq] at new
    have last : call = client.calls.length := by
      have outside := List.getElem?_eq_none_iff.mp before
      have inside := (List.getElem?_eq_some_iff.mp made).1
      simp only [Client.addCall, List.length_append, List.length_singleton] at inside
      omega
    rw [new.1, last]
    exact List.mem_append_right _ (List.mem_singleton_self _)

/-- A call that gives up takes only its own id off the list, and marks the call that waited. -/
theorem Tracked.withdraw {client : Client} (tracked : client.Tracked) (sound : client.Sound)
    {which : Nat} {held : RequestCall} (made : client.calls[which]? = some held) {stage : Stage}
    (ended : stage.isOpen = false) :
    ((client.remove held.id).setStage which stage).Tracked := by
  rintro call id ⟨after, running, same⟩
  change _ ∈ (client.remove held.id).pending
  rw [pending_remove, mem_forget sound.distinct]
  have apart : which ≠ call := by
    rintro rfl
    rw [getElem?_setStage, getElem?_remove, made] at same
    simp only [Option.map_some, if_true, Option.some.injEq, RequestCall.mk.injEq] at same
    rw [← same.2.1, ended] at running
    cases running
  rw [getElem?_setStage_of_ne _ _ apart, getElem?_remove, Option.map_eq_some_iff] at same
  obtain ⟨record, found, marked⟩ := same
  split at marked
  · cases marked
  · rename_i spared
    subst marked
    have mem := tracked call id ⟨after, running, found⟩
    refine ⟨mem, fun shared => spared ⟨⟨⟨id, call⟩, ?_, rfl⟩, rfl⟩⟩
    rw [← show id = held.id from shared]
    exact pending?_of_mem sound.distinct mem

theorem Tracked.respond {client : Client} (tracked : client.Tracked) (sound : client.Sound)
    {id : Id} {entry : Pending} (found : client.pending? id = some entry) (answer : Answer) :
    ((client.forget id).fill entry.call answer).Tracked := by
  rintro call name ⟨stage, running, same⟩
  change _ ∈ (client.forget id).pending
  rw [mem_forget sound.distinct]
  rw [getElem?_fill, Option.map_eq_some_iff] at same
  obtain ⟨record, made, marked⟩ := same
  split at marked
  · cases marked
  · rename_i apart
    subst marked
    have mem := tracked call name ⟨stage, running, made⟩
    refine ⟨mem, fun shared => apart ?_⟩
    have also := pending?_of_mem sound.distinct mem
    rw [show name = id from shared, found, Option.some.injEq] at also
    rw [also]

theorem Tracked.closeWith {client : Client} (tracked : client.Tracked) (error : TransportError) :
    (client.closeWith error).Tracked := by
  rintro call id ⟨stage, running, same⟩
  rw [getElem?_closeWith, Option.map_eq_some_iff] at same
  obtain ⟨record, made, marked⟩ := same
  split at marked
  · cases marked
  · rename_i spared
    subst marked
    exact absurd ⟨_, tracked call id ⟨stage, running, made⟩, rfl⟩ spared

theorem Tracked.transition {client next : Client} {step : Step} (tracked : client.Tracked)
    (sound : client.Sound) (taken : client.Transition step next) : next.Tracked := by
  have moved {which : Nat} {held : RequestCall} {stage : Stage}
      (made : client.calls[which]? = some held)
      (running : stage.isOpen = true → held.stage.isOpen = true) :
      (client.setStage which stage).Tracked :=
    tracked.of_frame (fun _ mem => mem) fun _ _ => Unanswered.of_setStage made running
  cases taken with
  | refuse refused => exact tracked.addCall _ rfl
  | register accepted => exact tracked.register _
  | deliver sending => exact moved sending fun _ => rfl
  | fail sending => exact tracked.withdraw sound sending rfl
  | cancel made running => exact tracked.withdraw sound made rfl
  | answer ready => exact moved ready fun _ => rfl
  | forsake forsaken => exact moved forsaken fun _ => rfl
  | respond named found => exact tracked.respond sound found _
  | close closing running => exact tracked.closeWith _
  | idle nothing handlers => exact tracked

theorem Tracked.run {client : Client} (tracked : client.Tracked) (sound : client.Sound)
    (steps : List Step) : (client.run steps).1.Tracked := by
  induction steps generalizing client with
  | nil => exact tracked
  | cons step rest ih =>
    exact ih (tracked.transition sound (client.transition_step step)) (sound.step step)

/-- What a call that is refused returns at once; one that is registered returns nothing yet. -/
theorem answer?_start (client : Client) (request : Request) :
    (client.start request).1.answer? client.calls.length =
      (client.refusal? request.id).map .error := by
  unfold start refusal?
  cases client.shutdown with
  | some error => simp [answer?]
  | none => by_cases shared : (client.pending? request.id).isSome <;> simp [answer?, shared]

/-- An id is pending at most once, and exactly the started requests whose calls still run and have
no answer are pending. So a request is refused for its id only while such a call has it, and a
client that is shut down has no pending request. -/
theorem mem_pending_run_iff (steps : List Step) :
    (run {} steps).1.DistinctPending ∧
    (∀ entry : Pending, entry ∈ (run {} steps).1.pending ↔
      (steps.filterMap Step.started?)[entry.call]? = some entry.id ∧
        (run {} steps).1.Unanswered entry.call entry.id) ∧
    (∀ request : Request,
      ((run {} steps).1.start request).1.answer? (run {} steps).1.calls.length =
          some (.error (.duplicateId request.id)) ↔
        (run {} steps).1.shutdown = none ∧
          ∃ call, (run {} steps).1.Unanswered call request.id) ∧
    ((run {} steps).1.shutdown ≠ none → (run {} steps).1.pending = []) := by
  have sound : (run {} steps).1.Sound := sound_new.run steps
  have tracked : (run {} steps).1.Tracked := tracked_new.run sound_new steps
  have ids : (run {} steps).1.calls.map RequestCall.id = steps.filterMap Step.started? :=
    map_id_run {} steps
  refine ⟨sound.distinct, ?_, ?_, sound.drained⟩
  · intro entry
    constructor
    · intro mem
      have waits : (run {} steps).1.Unanswered entry.call entry.id := sound.awaited entry mem
      refine ⟨?_, waits⟩
      obtain ⟨stage, -, made⟩ := waits
      rw [← ids, List.getElem?_map, made]
      rfl
    · intro both
      exact tracked entry.call entry.id both.2
  · intro request
    rw [answer?_start]
    unfold refusal?
    cases recorded : (run {} steps).1.shutdown with
    | some error => simp
    | none =>
      cases found : (run {} steps).1.pending? request.id with
      | some entry =>
        obtain ⟨mem, named⟩ := pending?_eq_some found
        have waits : (run {} steps).1.Unanswered entry.call request.id :=
          named ▸ sound.awaited entry mem
        simp only [Option.isSome_some, if_true, Option.map_some, true_and, true_iff]
        exact ⟨entry.call, waits⟩
      | none =>
        have free := pending?_eq_none_iff.mp found
        simp only [Option.isSome_none, Bool.false_eq_true, if_false, Option.map_none, reduceCtorEq,
          true_and, false_iff]
        rintro ⟨call, unanswered⟩
        exact free _ (tracked call request.id unanswered) rfl

end Client

end LanguageClient
