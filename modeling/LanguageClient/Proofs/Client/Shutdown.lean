import LanguageClient.Proofs.Client.Following
import LanguageClient.Proofs.Client.Unanswered

set_option autoImplicit false

namespace LanguageClient

/-- The steps that a call still needs to return the answer in its slot. -/
def Stage.remaining (call : Nat) : Stage → List Client.Step
  | .sending => [.sent call (.ok ()), .resume call]
  | .waiting => [.resume call]
  | .returned _ | .dropped => []

namespace RequestCall

/-- A call that has its answer, is not given up, and whose send does not fail, returns this answer
when it has taken the steps that it still needs. -/
theorem run_filled_iff {id : Id} {stage : Stage} (running : stage.isOpen = true) (answer : Answer)
    {call : Nat} {steps : List Client.Step} (sent : ∀ error, .sent call (.error error) ∉ steps)
    (kept : .drop call ∉ steps) (returned : Answer) :
    (run ⟨id, stage, .filled answer⟩ call steps).stage = .returned returned ↔
      returned = answer ∧ (stage.remaining call).Sublist steps := by
  induction steps generalizing stage with
  | nil => cases stage <;> cases running <;> simp [Stage.remaining]
  | cons step rest ih =>
    have still (error : TransportError) : .sent call (.error error) ∉ rest :=
      fun mem => sent error (List.mem_cons_of_mem _ mem)
    have spared : .drop call ∉ rest := fun mem => kept (List.mem_cons_of_mem _ mem)
    have undropped : step ≠ .drop call := fun same => kept (same ▸ List.mem_cons_self ..)
    rw [run_cons]
    cases stage with
    | returned answer => cases running
    | dropped => cases running
    | sending =>
      by_cases done : step = .sent call (.ok ())
      · subst done
        have moved : next ⟨id, .sending, .filled answer⟩ call (.sent call (.ok ())) =
            ⟨id, .waiting, .filled answer⟩ := by simp [next]
        rw [moved, ih rfl still spared]
        simp [Stage.remaining]
      · have unsent (result : Except TransportError Unit) : step ≠ .sent call result := by
          rintro rfl
          cases result with
          | ok => exact done rfl
          | error error => exact sent error (List.mem_cons_self ..)
        have idle : next ⟨id, .sending, .filled answer⟩ call step =
            ⟨id, .sending, .filled answer⟩ :=
          next_of_foreign rfl (fun result same => absurd same (unsent result))
            (fun _ => Stage.noConfusion) undropped
        rw [idle, ih rfl still spared]
        simp [Stage.remaining, List.sublist_cons_iff, Ne.symm done]
    | waiting =>
      by_cases resumed : step = .resume call
      · subst resumed
        simp [next, Stage.remaining, eq_comm]
      · have idle : next ⟨id, .waiting, .filled answer⟩ call step =
            ⟨id, .waiting, .filled answer⟩ :=
          next_of_foreign rfl (fun _ _ => Stage.noConfusion) (fun same => absurd same resumed)
            undropped
        rw [idle, ih rfl still spared]
        simp [Stage.remaining, List.sublist_cons_iff, Ne.symm resumed]

end RequestCall

namespace Client

/-! ### What a run does outside of the client -/

def Step.shutdownHandler? : Step → Option String
  | .setHandler .shutdown name => some name
  | _ => none

def Effect.reported? : Effect → Option (String × TransportError)
  | .run handler (.closed error) => some (handler, error)
  | _ => none

def Effect.handed? : Effect → Option Message
  | .hand _ message => some message
  | _ => none

theorem step_start (client : Client) (request : Request) :
    client.step (.start request) = client.start request := rfl

theorem effects_run_cons (client : Client) (step : Step) (rest : List Step) :
    (client.run (step :: rest)).2 = (client.step step).2 ++ ((client.step step).1.run rest).2 := rfl

theorem effects_run_append (client : Client) (steps more : List Step) :
    (client.run (steps ++ more)).2 =
      (client.run steps).2 ++ ((client.run steps).1.run more).2 := by
  induction steps generalizing client with
  | nil => rfl
  | cons step rest ih =>
    rw [List.cons_append, effects_run_cons, effects_run_cons, ih, run_cons, List.append_assoc]

@[simp] theorem handlers_remove (client : Client) (id : Id) :
    (client.remove id).handlers = client.handlers := by
  unfold remove
  split <;> rfl

theorem handlers_foldl_fill (entries : List Pending) (client : Client) (answer : Answer) :
    (entries.foldl (fun held entry => held.fill entry.call answer) client).handlers =
      client.handlers := by
  induction entries generalizing client with
  | nil => rfl
  | cons first rest ih => exact ih _

theorem handlers_shutDown (client : Client) (error : TransportError) :
    (client.shutDown error).1.handlers = client.handlers := by
  unfold shutDown
  split
  · rfl
  · exact handlers_foldl_fill _ _ _

theorem shutdownHandler_step (client : Client) (step : Step) :
    (client.step step).1.handlers.shutdown =
      step.shutdownHandler?.or client.handlers.shutdown := by
  cases step with
  | start request =>
    simp only [Client.step, start]
    repeat' split
    all_goals rfl
  | sent call result =>
    simp only [Client.step, sent]
    repeat' split
    all_goals simp [setStage, Step.shutdownHandler?]
  | resume call =>
    simp only [Client.step, resume]
    repeat' split
    all_goals rfl
  | drop call =>
    simp only [Client.step, drop]
    repeat' split
    all_goals simp [setStage, Step.shutdownHandler?]
  | receive event =>
    cases event with
    | response response =>
      simp only [Client.step, receive, respond]
      repeat' split
      all_goals rfl
    | notification notification =>
      simp only [Client.step, receive]
      split <;> rfl
    | errorOutput text =>
      simp only [Client.step, receive]
      split <;> rfl
    | closed error => exact congrArg Handlers.shutdown (handlers_shutDown client error)
  | eventsEnded => exact congrArg Handlers.shutdown (handlers_shutDown client _)
  | setHandler handler name => cases handler <;> rfl

theorem shutdownHandler_run (client : Client) (steps : List Step) :
    (client.run steps).1.handlers.shutdown =
      (steps.reverse.findSome? Step.shutdownHandler?).or client.handlers.shutdown := by
  induction steps generalizing client with
  | nil => rfl
  | cons step rest ih =>
    rw [run_cons, ih, shutdownHandler_step, List.reverse_cons, List.findSome?_append,
      Option.or_assoc]
    simp

theorem step_of_shutdown? {step : Step} {error : TransportError}
    (closing : step.shutdown? = some error) (client : Client) :
    client.step step = client.shutDown error := by
  cases step with
  | receive event =>
    cases event with
    | closed reason =>
      cases closing
      rfl
    | response response => cases closing
    | notification notification => cases closing
    | errorOutput text => cases closing
  | eventsEnded =>
    cases closing
    rfl
  | start request => cases closing
  | sent call result => cases closing
  | resume call => cases closing
  | drop call => cases closing
  | setHandler handler name => cases closing

/-- Nothing is handed to the connection but by a start, and no shutdown is reported but by its own
step. -/
theorem effects_step_of_plain {step : Step} (unstarted : step.started? = none)
    (up : step.shutdown? = none) (client : Client) :
    (client.step step).2.filterMap Effect.reported? = [] ∧
      (client.step step).2.filterMap Effect.handed? = [] := by
  cases step with
  | start request => cases unstarted
  | sent call result =>
    simp only [Client.step, sent]
    repeat' split
    all_goals exact ⟨rfl, rfl⟩
  | resume call =>
    simp only [Client.step, resume]
    repeat' split
    all_goals exact ⟨rfl, rfl⟩
  | drop call =>
    simp only [Client.step, drop]
    repeat' split
    all_goals exact ⟨rfl, rfl⟩
  | receive event =>
    cases event with
    | response response =>
      simp only [Client.step, receive, respond]
      repeat' split
      all_goals exact ⟨rfl, rfl⟩
    | notification notification =>
      simp only [Client.step, receive]
      split <;> exact ⟨rfl, rfl⟩
    | errorOutput text =>
      simp only [Client.step, receive]
      split <;> exact ⟨rfl, rfl⟩
    | closed error => cases up
  | eventsEnded => cases up
  | setHandler handler name => exact ⟨rfl, rfl⟩

theorem handed_start_of_accepted {client : Client} {request : Request}
    (accepted : client.refusal? request.id = none) :
    (client.start request).2.filterMap Effect.handed? = [.request request] := by
  obtain ⟨running, free⟩ := refusal?_eq_none_iff.mp accepted
  simp only [start, running, free]
  rfl

theorem reported_start (client : Client) (request : Request) :
    (client.start request).2.filterMap Effect.reported? = [] := by
  unfold start
  dsimp only
  repeat' split
  all_goals rfl

theorem start_of_closed {client : Client} {error : TransportError}
    (closed : client.shutdown = some error) (request : Request) :
    client.start request =
      (client.addCall request.id (.returned (.error (.transport error))), []) := by
  obtain ⟨pending, shutdown, calls, handlers⟩ := client
  cases closed
  rfl

theorem shutDown_of_closed {client : Client} {error : TransportError}
    (closed : client.shutdown = some error) (later : TransportError) :
    client.shutDown later = (client, [.log ⟨.debug, .client,
      "LSP connection already shut down, ignoring: " ++ later.message⟩]) := by
  unfold shutDown
  rw [closed]

theorem Step.eq_start_of_started? {step : Step} {id : Id} (started : step.started? = some id) :
    ∃ request, step = .start request := by
  cases step with
  | start request => exact ⟨request, rfl⟩
  | sent call result => cases started
  | resume call => cases started
  | drop call => cases started
  | receive event => cases started
  | eventsEnded => cases started
  | setHandler handler name => cases started

theorem reported_step_of_up {step : Step} (up : step.shutdown? = none) (client : Client) :
    (client.step step).2.filterMap Effect.reported? = [] := by
  cases started : step.started? with
  | none => exact (effects_step_of_plain started up client).1
  | some id =>
    obtain ⟨request, rfl⟩ := Step.eq_start_of_started? started
    exact reported_start client request

theorem effects_step_of_closed {client : Client} {error : TransportError}
    (closed : client.shutdown = some error) (step : Step) :
    (client.step step).2.filterMap Effect.reported? = [] ∧
      (client.step step).2.filterMap Effect.handed? = [] := by
  cases closing : step.shutdown? with
  | some later =>
    rw [step_of_shutdown? closing, shutDown_of_closed closed]
    exact ⟨rfl, rfl⟩
  | none =>
    cases started : step.started? with
    | none => exact effects_step_of_plain started closing client
    | some id =>
      obtain ⟨request, rfl⟩ := Step.eq_start_of_started? started
      rw [step_start, start_of_closed closed]
      exact ⟨rfl, rfl⟩

theorem reported_shutDown {client : Client} (running : client.shutdown = none)
    (error : TransportError) :
    (client.shutDown error).2.filterMap Effect.reported? =
      client.handlers.shutdown.toList.map (·, error) := by
  unfold shutDown
  rw [running]
  cases client.handlers.shutdown <;> rfl

theorem reported_run_of_up {steps : List Step} (up : steps.findSome? Step.shutdown? = none)
    (client : Client) : (client.run steps).2.filterMap Effect.reported? = [] := by
  induction steps generalizing client with
  | nil => rfl
  | cons step rest ih =>
    rw [List.findSome?_eq_none_iff, List.forall_mem_cons, ← List.findSome?_eq_none_iff] at up
    rw [effects_run_cons, List.filterMap_append, reported_step_of_up up.1, ih up.2,
      List.append_nil]

/-- A client that is shut down reports no shutdown any more and hands nothing to the connection. -/
theorem effects_run_of_closed {client : Client} {error : TransportError}
    (closed : client.shutdown = some error) (steps : List Step) :
    (client.run steps).2.filterMap Effect.reported? = [] ∧
      (client.run steps).2.filterMap Effect.handed? = [] := by
  induction steps generalizing client with
  | nil => exact ⟨rfl, rfl⟩
  | cons step rest ih =>
    have still : (client.step step).1.shutdown = some error := by
      rw [(client.transition_step step).shutdown, closed, Option.some_or]
    obtain ⟨silent, idle⟩ := effects_step_of_closed closed step
    obtain ⟨later, last⟩ := ih still
    rw [effects_run_cons, List.filterMap_append, List.filterMap_append, silent, idle, later, last]
    exact ⟨rfl, rfl⟩

theorem Sound.serves_shutDown {client : Client} (sound : client.Sound)
    (running : client.shutdown = none) (error : TransportError) {entry : Pending}
    (mem : entry ∈ client.pending) :
    ∃ stage : Stage, stage.isOpen = true ∧
      client.calls[entry.call]? = some ⟨entry.id, stage, .empty⟩ ∧
      (client.shutDown error).1.Serves entry.call
        ⟨entry.id, stage, .filled (.error (.transport error))⟩ := by
  obtain ⟨stage, unfinished, made⟩ := sound.awaited entry mem
  refine ⟨stage, unfinished, made, ?_, fun _ => .inr ⟨_, rfl⟩⟩
  have closed : (client.shutDown error).1 = client.closeWith error := by
    unfold shutDown
    rw [running]
    rfl
  rw [closed, getElem?_closeWith, made, Option.map_some, if_pos ⟨entry, mem, rfl⟩]

/-- A client is shut down at most once, by the first step that reports a shutdown. The handler that
is set then is run with the error of this step, and no other shutdown is ever reported. A call that
is pending then, is not given up and does not fail to send returns this error, and does so when it
has taken the steps that it still needs. Requests and notifications that come later fail with the
error at once, hand nothing to the connection and leave nothing pending. -/
theorem shutdown_run_final (steps : List Step) :
    (steps.findSome? Step.shutdown? = none →
      (run {} steps).1.shutdown = none ∧ (run {} steps).2.filterMap Effect.reported? = []) ∧
    ∀ before closing after error, steps = before ++ closing :: after →
      before.findSome? Step.shutdown? = none → closing.shutdown? = some error →
      (run {} steps).1.shutdown = some error ∧
      (run {} steps).2.filterMap Effect.reported? =
        (before.reverse.findSome? Step.shutdownHandler?).toList.map (·, error) ∧
      (∀ entry ∈ (run {} before).1.pending, ∃ stage : Stage, stage.isOpen = true ∧
        (run {} before).1.calls[entry.call]? = some ⟨entry.id, stage, .empty⟩ ∧
        ((∀ failure, .sent entry.call (.error failure) ∉ after) → .drop entry.call ∉ after →
          ∀ answer, (run {} steps).1.answer? entry.call = some answer ↔
            answer = .error (.transport error) ∧ (stage.remaining entry.call).Sublist after)) ∧
      ((run {} (before ++ [closing])).1.run after).2.filterMap Effect.handed? = [] ∧
      (run {} steps).1.pending = [] ∧
      (∀ request, ((run {} steps).1.step (.start request)).2 = [] ∧
        ((run {} steps).1.step (.start request)).1.pending = [] ∧
        ((run {} steps).1.step (.start request)).1.answer? (run {} steps).1.calls.length =
          some (.error (.transport error))) ∧
      ∀ notification, (run {} steps).1.notify notification = .error error := by
  constructor
  · intro up
    exact ⟨by rw [shutdown_run, up]; rfl, reported_run_of_up up {}⟩
  · rintro before closing after error rfl up closes
    have sound : (run {} before).1.Sound := sound_new.run before
    have running : (run {} before).1.shutdown = none := by rw [shutdown_run, up]; rfl
    have handler : (run {} before).1.handlers.shutdown =
        before.reverse.findSome? Step.shutdownHandler? := by
      rw [shutdownHandler_run]
      exact Option.or_none
    have step := step_of_shutdown? closes (run {} before).1
    have closed : ((run {} before).1.step closing).1.shutdown = some error := by
      rw [(transition_step _ closing).shutdown, running, closes, Option.none_or]
    have final : (run {} (before ++ closing :: after)).1 =
        (((run {} before).1.step closing).1.run after).1 := run_append _ _ _
    have kept : (run {} (before ++ closing :: after)).1.shutdown = some error := by
      rw [final, shutdown_run, closed, Option.some_or]
    have drained : (run {} (before ++ closing :: after)).1.pending = [] :=
      (sound_new.run _).drained (by rw [kept]; exact Option.some_ne_none _)
    refine ⟨kept, ?_, ?_, ?_, drained, ?_, ?_⟩
    · rw [effects_run_append, List.filterMap_append, reported_run_of_up up, List.nil_append,
        effects_run_cons, List.filterMap_append, (effects_run_of_closed closed after).1,
        List.append_nil, step, reported_shutDown running, handler]
    · intro entry mem
      obtain ⟨stage, unfinished, made, serves⟩ := sound.serves_shutDown running error mem
      refine ⟨stage, unfinished, made, ?_⟩
      intro sent spared answer
      rw [← step] at serves
      rw [final, (serves.run (sound.step closing) after).answer?_eq_some_iff,
        RequestCall.run_filled_iff unfinished _ sent spared]
    · rw [run_append]
      exact (effects_run_of_closed closed after).2
    · intro request
      have refused := start_of_closed kept request
      refine ⟨congrArg Prod.snd refused, ?_, ?_⟩
      · exact (congrArg (fun result => result.1.pending) refused).trans drained
      · rw [show ∀ client : Client, client.step (.start request) = client.start request
          from fun _ => rfl, answer?_start]
        simp only [refusal?, kept, Option.map_some]
    · intro notification
      unfold notify
      rw [kept]

/-- Two requests are pending when the connection shuts down, of which one is still being sent. Two
more shutdowns with other errors and another handler come before the two calls return. -/
theorem shutdown_during_send :
    let request (id : Int64) : Request := ⟨.number id, "textDocument/hover", none⟩
    let error : TransportError := .closed "server closed its output stream"
    let before : List Step := [.setHandler .shutdown "first", .start (request 1),
      .start (request 2), .setHandler .shutdown "second", .sent 0 (.ok ())]
    let after : List Step := [.receive (.closed (.closed "again")), .resume 1, .eventsEnded,
      .setHandler .shutdown "third", .sent 1 (.ok ()), .resume 0, .resume 1]
    let steps : List Step := before ++ .receive (.closed error) :: after
    before.findSome? Step.shutdown? = none ∧
      (run {} steps).2.filterMap Effect.reported? = [("second", error)] ∧
      (run {} steps).1.answer? 0 = some (.error (.transport error)) ∧
      (run {} steps).1.answer? 1 = some (.error (.transport error)) := by
  intro request error before after steps
  have up : before.findSome? Step.shutdown? = none := by decide
  obtain ⟨-, reported, answers, -⟩ :=
    (shutdown_run_final steps).2 before (.receive (.closed error)) after error rfl up rfl
  refine ⟨up, reported, ?_, ?_⟩
  · obtain ⟨stage, -, made, answered⟩ := answers ⟨.number 1, 0⟩ (by decide)
    cases made
    exact (answered (by simp [after]) (by decide) _).mpr ⟨rfl, by decide⟩
  · obtain ⟨stage, -, made, answered⟩ := answers ⟨.number 2, 1⟩ (by decide)
    cases made
    exact (answered (by simp [after]) (by decide) _).mpr ⟨rfl, by decide⟩

end Client

end LanguageClient
