import LanguageClient.Proofs.Client.Transition

set_option autoImplicit false

namespace LanguageClient

namespace Client

/-! ### The parts of a step -/

theorem getElem?_setStage (client : Client) (call other : Nat) (stage : Stage) :
    (client.setStage call stage).calls[other]? =
      client.calls[other]?.map fun held =>
        if call = other then { held with stage := stage } else held :=
  List.getElem?_modify _ _ _ _

theorem getElem?_fill (client : Client) (call other : Nat) (answer : Answer) :
    (client.fill call answer).calls[other]? =
      client.calls[other]?.map fun held =>
        if call = other then { held with slot := .filled answer } else held :=
  List.getElem?_modify _ _ _ _

theorem getElem?_setStage_of_ne (client : Client) {call other : Nat} (stage : Stage)
    (apart : call ≠ other) : (client.setStage call stage).calls[other]? = client.calls[other]? :=
  List.getElem?_modify_ne _ _ apart

theorem getElem?_fill_of_ne (client : Client) {call other : Nat} (answer : Answer)
    (apart : call ≠ other) : (client.fill call answer).calls[other]? = client.calls[other]? :=
  List.getElem?_modify_ne _ _ apart

theorem getElem?_addCall_of_some {client : Client} {call : Nat} {held : RequestCall} (id : Id)
    (stage : Stage) (made : client.calls[call]? = some held) :
    (client.addCall id stage).calls[call]? = some held := by
  obtain ⟨inside, -⟩ := List.getElem?_eq_some_iff.mp made
  exact (List.getElem?_append_left inside).trans made

theorem eq_of_getElem?_addCall {client : Client} {call : Nat} {held : RequestCall} {id : Id}
    {stage : Stage} (unmade : client.calls[call]? = none)
    (made : (client.addCall id stage).calls[call]? = some held) : held = ⟨id, stage, .empty⟩ := by
  have outside := List.getElem?_eq_none_iff.mp unmade
  change (client.calls ++ [_])[call]? = some held at made
  rw [List.getElem?_append_right outside] at made
  exact List.mem_singleton.mp (List.mem_of_getElem? made)

@[simp] theorem shutdown_remove (client : Client) (id : Id) :
    (client.remove id).shutdown = client.shutdown := by
  unfold remove
  split <;> rfl

/-- Taking a request off the list leaves a mark on no call but the one that waits for it. -/
theorem getElem?_remove (client : Client) (id : Id) (call : Nat) :
    (client.remove id).calls[call]? =
      client.calls[call]?.map fun held =>
        if (∃ entry, client.pending? id = some entry ∧ entry.call = call) ∧ held.slot = .empty then
          { held with slot := .abandoned }
        else held := by
  unfold remove
  split
  · rename_i unknown
    simp [unknown]
  · rename_i entry found
    refine (List.getElem?_modify _ _ client.calls _).trans ?_
    cases client.calls[call]? with
    | none => rfl
    | some held => by_cases here : entry.call = call <;> simp [found, here]

/-- Answering entries one after the other answers the calls that they name. -/
theorem getElem?_foldl_fill (entries : List Pending) (client : Client) (answer : Answer)
    (call : Nat) :
    (entries.foldl (fun held entry => held.fill entry.call answer) client).calls[call]? =
      client.calls[call]?.map fun held =>
        if ∃ entry ∈ entries, entry.call = call then { held with slot := .filled answer }
        else held := by
  induction entries generalizing client with
  | nil => simp
  | cons first rest ih =>
    rw [List.foldl_cons, ih, getElem?_fill, Option.map_map]
    congr 1
    funext held
    by_cases here : first.call = call <;> by_cases later : ∃ entry ∈ rest, entry.call = call <;>
      simp [here, later]

theorem pending_foldl_fill (entries : List Pending) (client : Client) (answer : Answer) :
    (entries.foldl (fun held entry => held.fill entry.call answer) client).pending =
      client.pending := by
  induction entries generalizing client with
  | nil => rfl
  | cons first rest ih => exact ih _

theorem shutdown_foldl_fill (entries : List Pending) (client : Client) (answer : Answer) :
    (entries.foldl (fun held entry => held.fill entry.call answer) client).shutdown =
      client.shutdown := by
  induction entries generalizing client with
  | nil => rfl
  | cons first rest ih => exact ih _

@[simp] theorem pending_closeWith (client : Client) (error : TransportError) :
    (client.closeWith error).pending = [] := pending_foldl_fill _ _ _

@[simp] theorem shutdown_closeWith (client : Client) (error : TransportError) :
    (client.closeWith error).shutdown = some error := shutdown_foldl_fill _ _ _

theorem getElem?_closeWith (client : Client) (error : TransportError) (call : Nat) :
    (client.closeWith error).calls[call]? =
      client.calls[call]?.map fun held =>
        if ∃ entry ∈ client.pending, entry.call = call then
          { held with slot := .filled (.error (.transport error)) }
        else held :=
  getElem?_foldl_fill _ _ _ _

/-! ### Steps -/

theorem map_id_modify (calls : List RequestCall) (call : Nat) (change : RequestCall → RequestCall)
    (keeps : ∀ held, (change held).id = held.id) :
    (calls.modify call change).map RequestCall.id = calls.map RequestCall.id := by
  refine List.ext_getElem? fun other => ?_
  rw [List.getElem?_map, List.getElem?_modify, List.getElem?_map, Option.map_eq_map,
    Option.map_map]
  congr 1
  funext held
  by_cases here : call = other <;> simp [here, keeps]

@[simp] theorem map_id_setStage (client : Client) (call : Nat) (stage : Stage) :
    (client.setStage call stage).calls.map RequestCall.id = client.calls.map RequestCall.id :=
  map_id_modify _ _ _ fun _ => rfl

@[simp] theorem map_id_fill (client : Client) (call : Nat) (answer : Answer) :
    (client.fill call answer).calls.map RequestCall.id = client.calls.map RequestCall.id :=
  map_id_modify _ _ _ fun _ => rfl

@[simp] theorem map_id_remove (client : Client) (id : Id) :
    (client.remove id).calls.map RequestCall.id = client.calls.map RequestCall.id := by
  unfold remove
  split
  · rfl
  · refine map_id_modify _ _ _ fun held => ?_
    split <;> rfl

theorem map_id_closeWith (client : Client) (error : TransportError) :
    (client.closeWith error).calls.map RequestCall.id = client.calls.map RequestCall.id := by
  refine List.ext_getElem? fun call => ?_
  rw [List.getElem?_map, List.getElem?_map, getElem?_closeWith, Option.map_map]
  congr 1
  funext held
  simp only [Function.comp_apply]
  split <;> rfl

theorem Transition.ids {client next : Client} {step : Step} (taken : client.Transition step next) :
    next.calls.map RequestCall.id = client.calls.map RequestCall.id ++ step.started?.toList := by
  cases taken with
  | refuse refused => simp [Client.addCall, Step.started?]
  | register accepted => simp [Client.register, Client.addCall, Step.started?]
  | deliver sending => simp [Step.started?]
  | fail sending => simp [Step.started?]
  | cancel made running => simp [Step.started?]
  | answer ready => simp [Step.started?]
  | forsake forsaken => simp [Step.started?]
  | respond named found =>
    rw [map_id_fill]
    exact (List.append_nil _).symm
  | close closing running =>
    have unstarted : step.started? = none := by
      cases step <;> first | rfl | cases closing
    rw [map_id_closeWith, unstarted, Option.toList_none, List.append_nil]
  | idle nothing handlers =>
    have unstarted : step.started? = none := by
      cases step <;> first | rfl | exact nothing.elim
    rw [unstarted, Option.toList_none, List.append_nil]

theorem Transition.shutdown {client next : Client} {step : Step}
    (taken : client.Transition step next) :
    next.shutdown = client.shutdown.or step.shutdown? := by
  cases taken with
  | close closing running => rw [shutdown_closeWith, running, closing, Option.none_or]
  | idle nothing handlers =>
    change client.shutdown = _
    cases recorded : client.shutdown with
    | some error => rfl
    | none =>
      have kept : step.shutdown? = none := by
        cases step with
        | receive event =>
          cases event with
          | closed error => exact absurd recorded nothing
          | response response => rfl
          | notification notification => rfl
          | errorOutput text => rfl
        | eventsEnded => exact absurd recorded nothing
        | start request => rfl
        | sent call result => rfl
        | resume call => rfl
        | drop call => rfl
        | setHandler handler name => rfl
      rw [kept, Option.or_none]
  | fail sending => exact (shutdown_remove _ _).trans (Option.or_none).symm
  | cancel made running => exact (shutdown_remove _ _).trans (Option.or_none).symm
  | refuse refused => exact (Option.or_none).symm
  | register accepted => exact (Option.or_none).symm
  | deliver sending => exact (Option.or_none).symm
  | answer ready => exact (Option.or_none).symm
  | forsake forsaken => exact (Option.or_none).symm
  | respond named found => exact (Option.or_none).symm

theorem exists_getElem?_setStage {client : Client} {call which : Nat} {held marked : RequestCall}
    (made : client.calls[call]? = some marked) (id : marked.id = held.id)
    (kept : marked.stage = held.stage) (own : which = call → held.stage.isOpen = true)
    (stage : Stage) :
    ∃ after, (client.setStage which stage).calls[call]? = some after ∧ after.id = held.id ∧
      (held.stage.isOpen = true ∨ after.stage = held.stage) := by
  rw [getElem?_setStage, made, Option.map_some]
  refine ⟨_, rfl, ?_⟩
  by_cases here : which = call
  · rw [if_pos here]
    exact ⟨id, .inl (own here)⟩
  · rw [if_neg here]
    exact ⟨id, .inr kept⟩

/-- In a step a call keeps its id, and, if it has ended, its stage. -/
theorem Transition.keeps {client next : Client} {step : Step} {call : Nat} {held : RequestCall}
    (taken : client.Transition step next) (made : client.calls[call]? = some held) :
    ∃ after, next.calls[call]? = some after ∧ after.id = held.id ∧
      (held.stage.isOpen = true ∨ after.stage = held.stage) := by
  have own {which : Nat} {record : RequestCall} (also : client.calls[which]? = some record)
      (running : record.stage.isOpen = true) (here : which = call) :
      held.stage.isOpen = true := by
    rw [here, made, Option.some.injEq] at also
    rw [also]
    exact running
  have removed (id : Id) : ∃ slot,
      (client.remove id).calls[call]? = some { held with slot := slot } := by
    rw [getElem?_remove, made, Option.map_some]
    split
    · exact ⟨_, rfl⟩
    · exact ⟨held.slot, rfl⟩
  cases taken with
  | refuse refused => exact ⟨held, getElem?_addCall_of_some _ _ made, rfl, .inr rfl⟩
  | register accepted => exact ⟨held, getElem?_addCall_of_some _ _ made, rfl, .inr rfl⟩
  | deliver sending => exact exists_getElem?_setStage made rfl rfl (own sending rfl) _
  | fail sending =>
    obtain ⟨slot, marked⟩ := removed _
    exact exists_getElem?_setStage marked rfl rfl (own sending rfl) _
  | cancel also running =>
    obtain ⟨slot, marked⟩ := removed _
    exact exists_getElem?_setStage marked rfl rfl (own also running) _
  | answer ready => exact exists_getElem?_setStage made rfl rfl (own ready rfl) _
  | forsake forsaken => exact exists_getElem?_setStage made rfl rfl (own forsaken rfl) _
  | respond named found =>
    rw [getElem?_fill]
    change ∃ after, client.calls[call]?.map _ = _ ∧ _
    rw [made, Option.map_some]
    refine ⟨_, rfl, ?_⟩
    split <;> exact ⟨rfl, .inr rfl⟩
  | close closing running =>
    rw [getElem?_closeWith, made, Option.map_some]
    refine ⟨_, rfl, ?_⟩
    split <;> exact ⟨rfl, .inr rfl⟩
  | idle nothing handlers => exact ⟨held, made, rfl, .inr rfl⟩

/-! ### Runs -/

theorem run_cons (client : Client) (step : Step) (rest : List Step) :
    (client.run (step :: rest)).1 = ((client.step step).1.run rest).1 := rfl

theorem run_append (client : Client) (steps more : List Step) :
    (client.run (steps ++ more)).1 = ((client.run steps).1.run more).1 := by
  induction steps generalizing client with
  | nil => rfl
  | cons step rest ih => exact ih (client.step step).1

theorem map_id_run (client : Client) (steps : List Step) :
    (client.run steps).1.calls.map RequestCall.id =
      client.calls.map RequestCall.id ++ steps.filterMap Step.started? := by
  induction steps generalizing client with
  | nil => exact (List.append_nil _).symm
  | cons step rest ih =>
    rw [run_cons, ih, (client.transition_step step).ids, List.append_assoc, List.filterMap_cons]
    cases step.started? <;> rfl

theorem shutdown_run (client : Client) (steps : List Step) :
    (client.run steps).1.shutdown = client.shutdown.or (steps.findSome? Step.shutdown?) := by
  induction steps generalizing client with
  | nil => exact Option.or_none.symm
  | cons step rest ih =>
    rw [run_cons, ih, (client.transition_step step).shutdown, Option.or_assoc, List.findSome?_cons]
    cases step.shutdown? <;> rfl

theorem answer?_eq_some_iff {client : Client} {call : Nat} {answer : Answer} :
    client.answer? call = some answer ↔
      ∃ id slot, client.calls[call]? = some ⟨id, .returned answer, slot⟩ := by
  unfold answer?
  split
  · rename_i id returned slot made
    simp [made]
  · rename_i other
    simp only [reduceCtorEq, false_iff]
    intro returned
    obtain ⟨id, slot, made⟩ := returned
    exact other id answer slot made

theorem answer?_run {client : Client} {call : Nat} {answer : Answer}
    (returned : client.answer? call = some answer) (more : List Step) :
    (client.run more).1.answer? call = some answer := by
  induction more generalizing client with
  | nil => exact returned
  | cons step rest ih =>
    obtain ⟨id, slot, made⟩ := answer?_eq_some_iff.mp returned
    obtain ⟨⟨other, stage, later⟩, stays, -, running | kept⟩ :=
      (client.transition_step step).keeps made
    · cases running
    · have same : stage = .returned answer := kept
      rw [same] at stays
      exact ih (answer?_eq_some_iff.mpr ⟨other, later, stays⟩)

end Client

end LanguageClient
