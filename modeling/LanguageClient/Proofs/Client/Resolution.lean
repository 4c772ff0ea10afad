import LanguageClient.Proofs.Client.Following

set_option autoImplicit false

/-!
How requests are resolved. In a run in which no id is used twice, what comes before and after the
start of a call says whether it returns, and what: the error of a shutdown that came before it, the
error of its own send, or the first response or shutdown that came after it.
-/

namespace LanguageClient

namespace Client

/-- What a call with a number and an id returns when some steps come before its start and some
after. A call that is given up before it returns has no outcome. -/
inductive Outcome (call : Nat) (id : Id) (before after : List Step) : Answer → Prop where
  | refused {error : TransportError} (closed : before.findSome? Step.shutdown? = some error) :
      Outcome call id before after (.error (.transport error))
  | unsent {sending rest : List Step} {error : TransportError}
      (running : before.findSome? Step.shutdown? = none)
      (split : after = sending ++ .sent call (.error error) :: rest)
      (first : ∀ result, .sent call result ∉ sending) (kept : .drop call ∉ sending) :
      Outcome call id before after (.error (.transport error))
  | resolved {sending waiting rest : List Step} {answer : Answer}
      (running : before.findSome? Step.shutdown? = none)
      (split : after = sending ++ .sent call (.ok ()) :: (waiting ++ .resume call :: rest))
      (first : ∀ result, .sent call result ∉ sending)
      (kept : .drop call ∉ sending ++ waiting)
      (found : (sending ++ waiting).findSome? (Step.resolution? id) = some answer) :
      Outcome call id before after answer

theorem stage_run_iff_outcome {client : Client} {call : Nat} {id : Id} {before : List Step}
    (recorded : client.shutdown = before.findSome? Step.shutdown?) (after : List Step)
    (answer : Answer) :
    (RequestCall.run ⟨id, client.opening, .empty⟩ call after).stage = .returned answer ↔
      Outcome call id before after answer := by
  unfold opening
  rw [recorded]
  cases state : before.findSome? Step.shutdown? with
  | some error =>
    rw [RequestCall.run_returned, Stage.returned.injEq]
    constructor
    · intro same
      subst same
      exact .refused state
    · intro outcome
      cases outcome with
      | refused closed =>
        rw [state, Option.some.injEq] at closed
        rw [closed]
      | unsent running split first kept => cases state.symm.trans running
      | resolved running split first kept found => cases state.symm.trans running
  | none =>
    simp only [RequestCall.run_sending_iff]
    constructor
    · intro returned
      rcases returned with ⟨sending, step, rest, rfl, first, kept, failed | ⟨rfl, later⟩⟩
      · obtain ⟨error, rfl, rfl⟩ := failed
        exact .unsent state rfl first kept
      · obtain ⟨waiting, last, rest, rfl, rfl, still, found⟩ := later
        have never : Step.drop call ∉ sending ++ waiting := by simp [kept, still]
        exact .resolved state rfl first never found
    · intro outcome
      cases outcome with
      | refused closed => cases state.symm.trans closed
      | unsent running split first kept =>
        exact ⟨_, _, _, split, first, kept, .inl ⟨_, rfl, rfl⟩⟩
      | resolved running split first kept found =>
        rw [List.mem_append, not_or] at kept
        exact ⟨_, _, _, split, first, kept.1, .inr ⟨rfl, _, _, _, rfl, rfl, kept.2, found⟩⟩

theorem exists_start {steps : List Step} {call : Nat}
    (made : call < (steps.filterMap Step.started?).length) :
    ∃ before request after, steps = before ++ .start request :: after ∧
      (before.filterMap Step.started?).length = call := by
  induction steps generalizing call with
  | nil => cases made
  | cons step rest ih =>
    have skipped (kept : step.started? = none) : ∃ before request after,
        step :: rest = before ++ .start request :: after ∧
          (before.filterMap Step.started?).length = call := by
      rw [List.filterMap_cons_none kept] at made
      obtain ⟨before, request, after, rfl, count⟩ := ih made
      exact ⟨step :: before, request, after, rfl, by rw [List.filterMap_cons_none kept, count]⟩
    cases step with
    | start request =>
      cases call with
      | zero => exact ⟨[], request, rest, rfl, rfl⟩
      | succ call =>
        obtain ⟨before, later, after, rfl, count⟩ := ih (Nat.lt_of_succ_lt_succ made)
        exact ⟨.start request :: before, later, after, rfl, congrArg Nat.succ count⟩
    | sent which result => exact skipped rfl
    | resume which => exact skipped rfl
    | drop which => exact skipped rfl
    | receive event => exact skipped rfl
    | eventsEnded => exact skipped rfl
    | setHandler handler name => exact skipped rfl

theorem exists_start_of_made {steps : List Step} {call : Nat} {held : RequestCall}
    (made : (run {} steps).1.calls[call]? = some held) :
    ∃ before request after, steps = before ++ .start request :: after ∧
      (before.filterMap Step.started?).length = call := by
  have count := congrArg List.length (map_id_run {} steps)
  have inside := (List.getElem?_eq_some_iff.mp made).1
  simp only [List.length_map, List.length_append, List.map_nil, List.length_nil,
    Nat.zero_add] at count
  exact exists_start (by omega)

theorem follows_run {before after : List Step} {request : Request}
    (distinct : ((before ++ .start request :: after).filterMap Step.started?).Nodup) :
    (run {} (before ++ .start request :: after)).1.Follows
      (before.filterMap Step.started?).length
      (RequestCall.run ⟨request.id, (run {} before).1.opening, .empty⟩
        (before.filterMap Step.started?).length after) := by
  have sound : (run {} before).1.Sound := sound_new.run before
  have ids : (run {} before).1.calls.map RequestCall.id = before.filterMap Step.started? := by
    rw [map_id_run]
    rfl
  have number : (before.filterMap Step.started?).length = (run {} before).1.calls.length := by
    rw [← ids, List.length_map]
  rw [List.filterMap_append, List.nodup_append] at distinct
  obtain ⟨-, later, apart⟩ := distinct
  have begun : (Step.start request :: after).filterMap Step.started? =
      request.id :: after.filterMap Step.started? := rfl
  rw [begun] at later apart
  have fresh : request.id ∉ (run {} before).1.calls.map RequestCall.id := by
    rw [ids]
    intro inside
    exact apart _ inside _ (List.mem_cons_self ..) rfl
  have follows := sound.follows_start fresh (transition_start _ request)
  rw [number, run_append]
  exact follows.run (sound.step (.start request)) after (List.nodup_cons.mp later).1

/-- What a call returns is the answer of the server, or the error of a shutdown or of its send. -/
theorem Outcome.origin {call : Nat} {id : Id} {before after : List Step} {answer : Answer}
    (outcome : Outcome call id before after answer) :
    (∃ response, .receive (.response response) ∈ after ∧ response.id = some id ∧
        answer = response.result.mapError .server) ∨
      ∃ error, answer = .error (.transport error) ∧
        ((∃ step ∈ before ++ after, step.shutdown? = some error) ∨
          .sent call (.error error) ∈ after) := by
  cases outcome with
  | refused closed =>
    rename_i error
    obtain ⟨step, mem, closing⟩ := List.exists_of_findSome?_eq_some closed
    exact .inr ⟨error, rfl, .inl ⟨step, List.mem_append_left _ mem, closing⟩⟩
  | unsent running split first kept =>
    rename_i sending rest error
    exact .inr ⟨error, rfl, .inr (by simp [split])⟩
  | resolved running split first kept found =>
    rename_i sending waiting rest
    obtain ⟨step, mem, resolved⟩ := List.exists_of_findSome?_eq_some found
    have later : step ∈ after := by
      rw [split]
      rcases List.mem_append.mp mem with early | late
      · exact List.mem_append_left _ early
      · exact List.mem_append_right _ (List.mem_cons_of_mem _ (List.mem_append_left _ late))
    rcases Step.resolution?_eq_some resolved with ⟨response, rfl, named, same⟩ | closing
    · exact .inl ⟨response, later, named, same⟩
    · obtain ⟨error, closing, same⟩ := closing
      exact .inr ⟨error, same, .inl ⟨step, List.mem_append_right _ later, closing⟩⟩

/-- In a run in which no id is used twice, each call returns at most once, and what it returns is
its outcome. No call is refused for its id, none that still runs is left without an answer to come,
and a response that names no pending request changes nothing. -/
theorem answer?_run_iff_outcome (steps : List Step)
    (distinct : (steps.filterMap Step.started?).Nodup) :
    (∀ before request after, steps = before ++ .start request :: after → ∀ answer,
      (run {} steps).1.answer? (before.filterMap Step.started?).length = some answer ↔
        Outcome (before.filterMap Step.started?).length request.id before after answer) ∧
    (∀ call answer, (run {} steps).1.answer? call = some answer →
      (∃ before request after, steps = before ++ .start request :: after ∧
        (before.filterMap Step.started?).length = call) ∧
      (∀ id, answer ≠ .error (.duplicateId id)) ∧
      ∀ more, ((run {} steps).1.run more).1.answer? call = some answer) ∧
    (∀ held ∈ (run {} steps).1.calls, held.stage.isOpen = true → held.slot ≠ .abandoned) ∧
    ∀ response : Response,
      (∀ id, response.id = some id → (run {} steps).1.pending? id = none) →
      ((run {} steps).1.step (.receive (.response response))).1 = (run {} steps).1 := by
  have outcomes (before : List Step) (request : Request) (after : List Step)
      (split : steps = before ++ .start request :: after) (answer : Answer) :
      (run {} steps).1.answer? (before.filterMap Step.started?).length = some answer ↔
        Outcome (before.filterMap Step.started?).length request.id before after answer := by
    subst split
    have recorded : (run {} before).1.shutdown = before.findSome? Step.shutdown? := by
      rw [shutdown_run]
      rfl
    rw [(follows_run distinct).answer?_eq_some_iff, stage_run_iff_outcome recorded]
  refine ⟨outcomes, ?_, ?_, ?_⟩
  · intro call answer returned
    obtain ⟨_, _, made⟩ := answer?_eq_some_iff.mp returned
    obtain ⟨before, request, after, split, rfl⟩ := exists_start_of_made made
    refine ⟨⟨before, request, after, split, rfl⟩, ?_, answer?_run returned⟩
    intro id same
    subst same
    rcases ((outcomes before request after split _).mp returned).origin with
      ⟨response, -, -, same⟩ | ⟨error, same, -⟩
    · cases result : response.result <;> rw [result] at same <;> cases same
    · cases same
  · intro held mem running abandoned
    obtain ⟨call, made⟩ := List.mem_iff_getElem?.mp mem
    obtain ⟨before, request, after, rfl, rfl⟩ := exists_start_of_made made
    have follows := follows_run distinct
    have same := follows.made.symm.trans made
    rw [Option.some.injEq] at same
    rw [same] at follows
    rcases follows.heard running with ⟨empty, -⟩ | ⟨answer, filled⟩
    · rw [empty] at abandoned
      cases abandoned
    · rw [filled] at abandoned
      cases abandoned
  · intro response unknown
    cases named : response.id with
    | none =>
      simp only [step, receive, respond, named]
      split <;> rfl
    | some id => simp only [step, receive, respond, named, unknown id named]

/-- The first response is there before its call has sent, the connection shuts down on the second
call, and the third one comes too late. -/
theorem outcomes_across_shutdown :
    let request (id : Int64) : Request := ⟨.number id, "textDocument/hover", none⟩
    let error : TransportError := .closed "server closed its output stream"
    let early : List Step := [.start (request 1),
      .receive (.response ⟨some (.number 1), .ok .null⟩), .sent 0 (.ok ()), .resume 0]
    let late : List Step := [.sent 1 (.ok ()), .receive (.closed error), .resume 1]
    let steps : List Step := early ++ .start (request 2) :: (late ++ [.start (request 3)])
    (steps.filterMap Step.started?).Nodup ∧
      Outcome 1 (.number 2) early (late ++ [.start (request 3)]) (.error (.transport error)) ∧
      Outcome 2 (.number 3) (early ++ .start (request 2) :: late) [] (.error (.transport error)) ∧
      (run {} steps).1.answer? 0 = some (.ok .null) := by
  intro request error early late steps
  have distinct : (steps.filterMap Step.started?).Nodup := by decide
  have outcomes := (answer?_run_iff_outcome steps distinct).1
  refine ⟨distinct, ?_, ?_, by decide⟩
  · exact (outcomes early (request 2) _ rfl _).mp (by decide)
  · exact (outcomes (early ++ .start (request 2) :: late) (request 3) [] rfl _).mp (by decide)

end Client

end LanguageClient
