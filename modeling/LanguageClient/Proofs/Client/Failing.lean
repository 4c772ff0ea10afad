import LanguageClient.Proofs.Client.Shutdown

set_option autoImplicit false

namespace LanguageClient

namespace Client

def Step.caller? : Step → Option Nat
  | .sent call _ | .resume call | .drop call => some call
  | _ => none

def withCall (client : Client) (held : RequestCall) : Client :=
  { client with
    calls := client.calls ++ [held]
    pending := if held.stage.isOpen then client.pending ++ [⟨held.id, client.calls.length⟩]
      else client.pending }

theorem getElem?_withCall (client : Client) (held : RequestCall) :
    (client.withCall held).calls[client.calls.length]? = some held :=
  List.getElem?_concat_length

theorem getElem?_withCall_of_ne (client : Client) (held : RequestCall) {call : Nat}
    (other : call ≠ client.calls.length) :
    (client.withCall held).calls[call]? = client.calls[call]? := by
  change (client.calls ++ [held])[call]? = _
  rw [List.getElem?_append]
  split
  · rfl
  · rename_i outside
    rw [List.getElem?_eq_none (by simp; omega), List.getElem?_eq_none (by omega)]

def outset (client : Client) (id : Id) : Stage :=
  match client.refusal? id with
  | some error => .returned (.error error)
  | none => .sending

theorem start_eq_withCall (client : Client) (request : Request) :
    (client.start request).1 = client.withCall ⟨request.id, client.outset request.id, .empty⟩ := by
  have taken := client.transition_start request
  generalize (client.start request).1 = next at taken ⊢
  cases taken with
  | refuse refused =>
    simp only [outset, refused, withCall, addCall, Stage.isOpen]
    rfl
  | register accepted =>
    simp only [outset, accepted, withCall, register, addCall, Stage.isOpen]
    rfl
  | close closing running => cases closing
  | idle nothing handlers => exact nothing.elim

theorem modify_concat (calls : List RequestCall) (held : RequestCall)
    (change : RequestCall → RequestCall) :
    (calls ++ [held]).modify calls.length change = calls ++ [change held] := by
  simp [List.modify_eq_take_drop]

/-- What the registration of a request has put on the list is what is taken off again. -/
theorem withdraw_withCall {client : Client} {id : Id} (free : client.pending? id = none)
    {stage ended : Stage} (running : stage.isOpen = true) (closed : ended.isOpen = false) :
    ((client.withCall ⟨id, stage, .empty⟩).remove id).setStage client.calls.length ended =
      client.withCall ⟨id, ended, .abandoned⟩ := by
  have unnamed : ∀ entry ∈ client.pending, ¬ decide (entry.id = id) = true := by
    simpa using pending?_eq_none_iff.mp free
  have found : (client.withCall ⟨id, stage, .empty⟩).pending? id =
      some ⟨id, client.calls.length⟩ := by
    simp only [pending?, withCall, running, if_true, List.find?_append] at free ⊢
    rw [free]
    simp
  have removed : (client.withCall ⟨id, stage, .empty⟩).pending.eraseP (·.id = id) =
      client.pending := by
    simp only [withCall, running, if_true]
    rw [List.eraseP_append_right _ unnamed, List.eraseP_cons_of_pos (by simp), List.append_nil]
  rw [remove, found]
  dsimp only [forget, abandon, setStage]
  rw [removed]
  simp [withCall, closed, modify_concat]

theorem setStage_withCall {client : Client} {id : Id} {stage later : Stage} {slot : Slot}
    (running : stage.isOpen = true) (still : later.isOpen = true) :
    (client.withCall ⟨id, stage, slot⟩).setStage client.calls.length later =
      client.withCall ⟨id, later, slot⟩ := by
  simp [setStage, withCall, running, still, modify_concat]

/-- While a call runs, no other request has its id, and it has not heard anything. -/
def Untouched (client : Client) (held : RequestCall) : Prop :=
  held.stage.isOpen = true → client.pending? held.id = none ∧ held.slot = .empty

theorem step_of_ended {client : Client} {call : Nat} {held : RequestCall} {step : Step}
    (made : client.calls[call]? = some held) (ended : held.stage.isOpen = false)
    (own : step.caller? = some call) : client.step step = (client, []) := by
  obtain ⟨id, stage, slot⟩ := held
  cases step with
  | sent which result =>
    cases own
    cases stage <;> cases ended <;> simp only [Client.step, sent, made]
  | resume which =>
    cases own
    cases stage <;> cases ended <;> simp only [Client.step, resume, made]
  | drop which =>
    cases own
    cases stage <;> cases ended <;> simp only [Client.step, drop, made]
  | start request => cases own
  | receive event => cases own
  | eventsEnded => cases own
  | setHandler handler name => cases own

/-- By its own steps a call changes nothing but itself. -/
theorem step_withCall {client : Client} {held : RequestCall} {step : Step}
    (untouched : client.Untouched held) (own : step.caller? = some client.calls.length) :
    ((client.withCall held).step step).1 =
      client.withCall (held.next client.calls.length step) := by
  have made := client.getElem?_withCall held
  cases running : held.stage.isOpen with
  | false => rw [step_of_ended made running own, RequestCall.next_of_closed running]
  | true =>
    obtain ⟨id, stage, slot⟩ := held
    obtain ⟨free, empty⟩ := untouched running
    cases empty
    cases step with
    | sent which result =>
      cases own
      cases stage with
      | sending =>
        cases result with
        | ok =>
          simp only [Client.step, sent, made, RequestCall.next, and_self, if_true]
          exact setStage_withCall rfl rfl
        | error error =>
          simp only [Client.step, sent, made, RequestCall.next, and_self, if_true]
          exact withdraw_withCall free rfl rfl
      | waiting => simp [Client.step, sent, made, RequestCall.next]
      | returned answer => cases running
      | dropped => cases running
    | resume which =>
      cases own
      cases stage <;> simp [Client.step, resume, made, RequestCall.next]
    | drop which =>
      cases own
      cases stage with
      | sending =>
        simp only [Client.step, drop, made, RequestCall.next, running, and_self, if_true]
        exact withdraw_withCall free rfl rfl
      | waiting =>
        simp only [Client.step, drop, made, RequestCall.next, running, and_self, if_true]
        exact withdraw_withCall free rfl rfl
      | returned answer => cases running
      | dropped => cases running
    | start request => cases own
    | receive event => cases own
    | eventsEnded => cases own
    | setHandler handler name => cases own

theorem Step.resolution?_of_own {step : Step} {call : Nat} (own : step.caller? = some call)
    (id : Id) : step.resolution? id = none := by
  cases step with
  | sent which result => rfl
  | resume which => rfl
  | drop which => rfl
  | start request => cases own
  | receive event => cases own
  | eventsEnded => cases own
  | setHandler handler name => cases own

theorem Untouched.next {client : Client} {call : Nat} {held : RequestCall} {step : Step}
    (untouched : client.Untouched held) (own : step.caller? = some call) :
    client.Untouched (held.next call step) := by
  intro running
  obtain ⟨before, kept⟩ := RequestCall.slot_next running
  rw [Step.resolution?_of_own own, Slot.hear_none] at kept
  rw [kept, RequestCall.id_next]
  exact untouched before

theorem run_withCall {client : Client} {held : RequestCall} {own : List Step}
    (untouched : client.Untouched held)
    (alone : ∀ step ∈ own, step.caller? = some client.calls.length) :
    ((client.withCall held).run own).1 = client.withCall (held.run client.calls.length own) := by
  induction own generalizing held with
  | nil => rfl
  | cons step rest ih =>
    obtain ⟨now, later⟩ := List.forall_mem_cons.mp alone
    rw [run_cons, step_withCall untouched now, RequestCall.run_cons]
    exact ih (untouched.next now) later

theorem run_of_ended {client : Client} {call : Nat} {held : RequestCall} {own : List Step}
    (made : client.calls[call]? = some held) (ended : held.stage.isOpen = false)
    (alone : ∀ step ∈ own, step.caller? = some call) : client.run own = (client, []) := by
  induction own with
  | nil => rfl
  | cons step rest ih =>
    obtain ⟨now, later⟩ := List.forall_mem_cons.mp alone
    simp only [run, step_of_ended made ended now, ih later, List.append_nil]

/-! ### How requests fail -/

/-- Why a request fails that no other step interferes with. -/
inductive Cause where
  | shutDown
  | duplicate
  | unsent
deriving DecidableEq

/-- A request fails for a cause and with an error, when its call takes these steps after the start.
A shutdown comes before all else. -/
inductive Fails (client : Client) (request : Request) (own : List Step) :
    Cause → RequestError → Prop where
  | shutDown {error : TransportError} (closed : client.shutdown = some error) :
      Fails client request own .shutDown (.transport error)
  | duplicate {entry : Pending} (running : client.shutdown = none) (mem : entry ∈ client.pending)
      (same : entry.id = request.id) :
      Fails client request own .duplicate (.duplicateId request.id)
  | unsent {error : TransportError} {sending rest : List Step} (running : client.shutdown = none)
      (free : ∀ entry ∈ client.pending, entry.id ≠ request.id)
      (split : own = sending ++ .sent client.calls.length (.error error) :: rest)
      (first : ∀ result, .sent client.calls.length result ∉ sending)
      (kept : .drop client.calls.length ∉ sending) :
      Fails client request own .unsent (.transport error)

variable {client : Client} {request : Request} {own : List Step}

theorem untouched_outset (client : Client) (id : Id) :
    client.Untouched ⟨id, client.outset id, .empty⟩ := by
  intro running
  refine ⟨?_, rfl⟩
  simp only [outset] at running
  split at running
  · cases running
  · rename_i accepted
    exact (refusal?_eq_none_iff.mp accepted).2

theorem run_start_own (request : Request)
    (alone : ∀ step ∈ own, step.caller? = some client.calls.length) :
    (client.run (.start request :: own)).1 = client.withCall
      (RequestCall.run ⟨request.id, client.outset request.id, .empty⟩ client.calls.length own) := by
  rw [run_cons, step_start, start_eq_withCall]
  exact run_withCall (client.untouched_outset request.id) alone

theorem Fails.refused {cause : Cause} {error : RequestError}
    (fails : client.Fails request own cause error) (early : cause ≠ .unsent) :
    client.refusal? request.id = some error := by
  cases fails with
  | shutDown closed => simp only [refusal?, closed]
  | duplicate running mem same =>
    have taken : (client.pending? request.id).isSome = true :=
      Option.isSome_iff_ne_none.mpr fun free => pending?_eq_none_iff.mp free _ mem same
    simp only [refusal?, running, taken, if_true]
  | unsent running free split first kept => exact absurd rfl early

theorem Fails.accepted {error : RequestError} (fails : client.Fails request own .unsent error) :
    client.refusal? request.id = none := by
  cases fails with
  | unsent running free split first kept =>
    exact refusal?_eq_none_iff.mpr ⟨running, pending?_eq_none_iff.mpr free⟩

theorem exists_fails_of_refused {error : RequestError}
    (refused : client.refusal? request.id = some error) :
    ∃ cause, client.Fails request own cause error := by
  unfold refusal? at refused
  split at refused
  · rename_i reason closed
    cases refused
    exact ⟨_, .shutDown closed⟩
  · rename_i running
    split at refused
    · rename_i taken
      obtain ⟨entry, found⟩ := Option.isSome_iff_exists.mp taken
      obtain ⟨mem, same⟩ := pending?_eq_some found
      cases refused
      exact ⟨_, .duplicate running mem same⟩
    · cases refused

/-- By its own steps a call returns an error exactly if the request fails. -/
theorem stage_run_iff_fails (request : Request)
    (alone : ∀ step ∈ own, step.caller? = some client.calls.length) (error : RequestError) :
    (RequestCall.run ⟨request.id, client.outset request.id, .empty⟩ client.calls.length own).stage =
        .returned (.error error) ↔
      ∃ cause, client.Fails request own cause error := by
  cases refused : client.refusal? request.id with
  | some reason =>
    have outset : client.outset request.id = .returned (.error reason) := by
      simp only [outset, refused]
    rw [outset, RequestCall.run_returned, Stage.returned.injEq, Except.error.injEq]
    constructor
    · intro same
      exact exists_fails_of_refused (same ▸ refused)
    · intro failing
      obtain ⟨cause, fails⟩ := failing
      by_cases late : cause = .unsent
      · subst late
        rw [fails.accepted] at refused
        cases refused
      · rw [fails.refused late, Option.some.injEq] at refused
        exact refused.symm
  | none =>
    have outset : client.outset request.id = .sending := by simp only [outset, refused]
    rw [outset, RequestCall.run_sending_iff]
    obtain ⟨running, free⟩ := refusal?_eq_none_iff.mp refused
    constructor
    · intro returned
      obtain ⟨sending, step, rest, split, first, kept, failed | sent⟩ := returned
      · obtain ⟨error, rfl, same⟩ := failed
        cases same
        exact ⟨_, .unsent running (pending?_eq_none_iff.mp free) split first kept⟩
      · -- A call that is sent waits for what none of its own steps brings.
        obtain ⟨-, waiting, last, later, also, -, -, settled⟩ := sent
        have deaf : ∀ step ∈ sending ++ waiting, step.resolution? request.id = none := by
          intro step mem
          have inside : step ∈ own := by
            rw [split, also]
            rcases List.mem_append.mp mem with inside | inside <;> simp [inside]
          exact Step.resolution?_of_own (alone step inside) _
        rw [Slot.settled?, List.findSome?_eq_none_iff.mpr deaf] at settled
        cases settled
    · intro failing
      obtain ⟨cause, fails⟩ := failing
      by_cases late : cause = .unsent
      · subst late
        cases fails with
        | unsent running free split first kept =>
          exact ⟨_, _, _, split, first, kept, .inl ⟨_, rfl, rfl⟩⟩
      · rw [fails.refused late] at refused
        cases refused

/-! ### What a failed request leaves -/

/-- A client is as it was before, but for its last call. -/
structure KeptBut (client after : Client) (call : Nat) : Prop where
  last : after.calls.length = call + 1
  pending : after.pending = client.pending
  shutdown : after.shutdown = client.shutdown
  handlers : after.handlers = client.handlers
  calls : ∀ other, other ≠ call → after.calls[other]? = client.calls[other]?

theorem keptBut_withCall {held : RequestCall} (ended : held.stage.isOpen = false) :
    client.KeptBut (client.withCall held) client.calls.length where
  last := List.length_append
  pending := if_neg (by simp [ended])
  shutdown := rfl
  handlers := rfl
  calls _ other := client.getElem?_withCall_of_ne held other

/-- As long as a request is pending, the next response with its id is the answer of its call, which
returns it unless it is given up or its send fails. -/
def Heeds (client : Client) (entry : Pending) : Prop :=
  ∀ between response rest, entry ∈ (client.run between).1.pending → response.id = some entry.id →
    ∃ stage : Stage, stage.isOpen = true ∧
      (client.run between).1.calls[entry.call]? = some ⟨entry.id, stage, .empty⟩ ∧
      ((∀ failure, .sent entry.call (.error failure) ∉ rest) → .drop entry.call ∉ rest →
        ∀ answer, (client.run (between ++ .receive (.response response) :: rest)).1.answer?
            entry.call = some answer ↔
          answer = response.result.mapError .server ∧ (stage.remaining entry.call).Sublist rest)

theorem respond_of_pending {response : Response} {entry : Pending}
    (named : response.id = some entry.id) (found : client.pending? entry.id = some entry) :
    (client.respond response).1 =
      (client.forget entry.id).fill entry.call (response.result.mapError .server) := by
  obtain ⟨id, result⟩ := response
  cases named
  simp only [respond, found]

theorem Sound.heeds (sound : client.Sound) (entry : Pending) : client.Heeds entry := by
  intro between response rest mem named
  have still := sound.run between
  obtain ⟨stage, running, made⟩ := still.awaited entry mem
  refine ⟨stage, running, made, fun sent spared answer => ?_⟩
  have serves : ((client.run between).1.step (.receive (.response response))).1.Serves entry.call
      ⟨entry.id, stage, .filled (response.result.mapError .server)⟩ := by
    refine ⟨?_, fun _ => .inr ⟨_, rfl⟩⟩
    change ((client.run between).1.respond response).1.calls[entry.call]? = _
    rw [respond_of_pending named (pending?_of_mem still.distinct mem), getElem?_fill]
    change (client.run between).1.calls[entry.call]?.map _ = _
    rw [made, Option.map_some, if_pos rfl]
  rw [run_append, run_cons, (serves.run (still.step _) rest).answer?_eq_some_iff,
    RequestCall.run_filled_iff running _ sent spared]

theorem effects_start_of_refused {error : RequestError}
    (refused : client.refusal? request.id = some error) : (client.start request).2 = [] := by
  unfold refusal? at refused
  unfold start
  dsimp only
  split
  · rfl
  · rename_i running
    rw [running] at refused
    split
    · rfl
    · rename_i free
      simp [free] at refused

/-- A refused request hands nothing to the connection, and its call does nothing more. -/
theorem effects_run_of_refused {error : RequestError}
    (refused : client.refusal? request.id = some error)
    (alone : ∀ step ∈ own, step.caller? = some client.calls.length) :
    (client.run (.start request :: own)).2 = [] := by
  have outset : client.outset request.id = .returned (.error error) := by
    simp only [outset, refused]
  have made := client.getElem?_withCall ⟨request.id, client.outset request.id, .empty⟩
  have ended : (client.outset request.id).isOpen = false := by
    rw [outset]
    rfl
  rw [effects_run_cons, step_start, effects_start_of_refused refused, start_eq_withCall,
    run_of_ended made ended alone]
  rfl

theorem pending_start_of_accepted (accepted : client.refusal? request.id = none) :
    (client.start request).1.pending = client.pending ++ [⟨request.id, client.calls.length⟩] := by
  have outset : client.outset request.id = .sending := by simp only [outset, accepted]
  rw [start_eq_withCall, outset]
  rfl

/-- A request fails, as long as its call alone takes steps, if the client is shut down, if its id is
pending, or if its send fails, and in no other way. Then all is as before but for its call. A
refused request hands nothing to the connection, the id of an unsent one can be registered again,
and each request that was pending still gets its response. -/
theorem request_fails_iff (client : Client) (request : Request) {own : List Step}
    (alone : ∀ step ∈ own, step.caller? = some client.calls.length) :
    (∀ error, (client.run (.start request :: own)).1.answer? client.calls.length =
        some (.error error) ↔ ∃ cause, client.Fails request own cause error) ∧
      ∀ cause error, client.Fails request own cause error →
        client.KeptBut (client.run (.start request :: own)).1 client.calls.length ∧
        (cause ≠ .unsent → (client.run (.start request :: own)).2 = []) ∧
        (cause = .unsent → ∀ again : Request, again.id = request.id →
          ((client.run (.start request :: own)).1.start again).1.pending =
            client.pending ++ [⟨request.id, client.calls.length + 1⟩] ∧
          ((client.run (.start request :: own)).1.start again).2.filterMap Effect.handed? =
            [.request again]) ∧
        ∀ opening, client = (run {} opening).1 →
          ∀ entry ∈ client.pending, (client.run (.start request :: own)).1.Heeds entry := by
  have run := run_start_own request alone
  have returns := stage_run_iff_fails request alone
  generalize RequestCall.run _ _ own = held at run returns
  constructor
  · intro error
    rw [run, answer?_eq_some_iff, getElem?_withCall, ← returns error]
    obtain ⟨id, stage, slot⟩ := held
    simp
  · intro cause error fails
    have returned := (returns error).mpr ⟨cause, fails⟩
    have kept : client.KeptBut (client.run (.start request :: own)).1 client.calls.length := by
      rw [run]
      exact keptBut_withCall (by rw [returned]; rfl)
    refine ⟨kept, ?_, ?_, ?_⟩
    · intro early
      exact effects_run_of_refused (fails.refused early) alone
    · rintro rfl again same
      obtain ⟨running, free⟩ := refusal?_eq_none_iff.mp fails.accepted
      have accepted : (client.run (.start request :: own)).1.refusal? again.id = none := by
        refine refusal?_eq_none_iff.mpr ⟨kept.shutdown.trans running, ?_⟩
        rw [pending?, kept.pending, same]
        exact free
      have listed := pending_start_of_accepted accepted
      rw [kept.pending, kept.last, same] at listed
      exact ⟨listed, handed_start_of_accepted accepted⟩
    · rintro opening rfl entry -
      rw [← run_append]
      exact (sound_new.run _).heeds entry

/-- While one request is pending, another under its id fails, and a third fails to be sent and is
then made again. The first still gets its response. A client that is shut down while a request is
listed refuses its id for the shutdown. -/
theorem request_fails_beside_pending :
    let request (id : Int64) : Request := ⟨.number id, "textDocument/hover", none⟩
    let error : TransportError := .closed "gone"
    let opening : List Step := [.start (request 1), .sent 0 (.ok ())]
    let client : Client := (run {} opening).1
    let own : List Step := [.resume 1, .sent 1 (.error error), .resume 1]
    let closed : Client := { client with shutdown := some error }
    client.pending = [⟨.number 1, 0⟩] ∧
      (client.run [.start (request 1)]).1.answer? 1 = some (.error (.duplicateId (.number 1))) ∧
      (client.run [.start (request 1), .receive (.response ⟨some (.number 1), .ok .null⟩),
        .resume 0]).1.answer? 0 = some (.ok .null) ∧
      (client.run (.start (request 2) :: own)).1.answer? 1 = some (.error (.transport error)) ∧
      ((client.run (.start (request 2) :: own)).1.start (request 2)).1.pending =
        [⟨.number 1, 0⟩, ⟨.number 2, 2⟩] ∧
      (closed.run [.start (request 1)]).1.answer? 1 = some (.error (.transport error)) := by
  intro request error opening client own closed
  have unmoved : ∀ step ∈ ([] : List Step), step.caller? = some 1 := nofun
  have alone : ∀ step ∈ own, step.caller? = some 1 := by decide
  have held : (⟨.number 1, 0⟩ : Pending) ∈ client.pending := by decide
  have twice : client.Fails (request 1) [] .duplicate (.duplicateId (.number 1)) :=
    .duplicate rfl held rfl
  have late : client.Fails (request 2) own .unsent (.transport error) :=
    .unsent rfl (by decide)
      (show own = [.resume 1] ++ .sent 1 (.error error) :: [.resume 1] from rfl) (by simp)
      (by decide)
  obtain ⟨refused, after⟩ := request_fails_iff client (request 1) unmoved
  obtain ⟨unsent, again⟩ := request_fails_iff client (request 2) alone
  have down := (request_fails_iff closed (request 1) unmoved).1
  obtain ⟨kept, -, -, heeds⟩ := after _ _ twice
  refine ⟨by decide, (refused _).mpr ⟨_, twice⟩, ?_, (unsent _).mpr ⟨_, late⟩,
    ((again _ _ late).2.2.1 rfl (request 2) rfl).1, (down _).mpr ⟨_, .shutDown rfl⟩⟩
  obtain ⟨stage, -, made, answered⟩ := heeds opening rfl _ held [] ⟨some (.number 1), .ok .null⟩
    [.resume 0] (kept.pending ▸ held) rfl
  cases made
  exact (answered (by simp) (by decide) _).mpr ⟨rfl, by decide⟩

end Client

end LanguageClient
