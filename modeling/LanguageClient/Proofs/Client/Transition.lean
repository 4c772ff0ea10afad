import LanguageClient.Client.Step

set_option autoImplicit false

/-!
What a step of a client can do. Each step is one of a few transitions, which say when they are taken
and what they leave; all else that is shown of steps is shown of these.
-/

namespace LanguageClient

def Stage.isOpen : Stage → Bool
  | .sending | .waiting => true
  | .returned _ | .dropped => false

namespace Client

def Step.started? : Step → Option Id
  | .start request => some request.id
  | _ => none

def Step.shutdown? : Step → Option TransportError
  | .receive (.closed error) => some error
  | .eventsEnded => some (.closed "transport stopped delivering events")
  | _ => none

/-- What a step answers to a request that is pending under an id. -/
def Step.resolution? (id : Id) : Step → Option Answer
  | .receive (.response response) =>
    if response.id = some id then some (response.result.mapError .server) else none
  | step => step.shutdown?.map fun error => .error (.transport error)

theorem Step.resolution?_of_shutdown? {step : Step} {error : TransportError}
    (closing : step.shutdown? = some error) (id : Id) :
    step.resolution? id = some (.error (.transport error)) := by
  cases step with
  | receive event =>
    cases event with
    | closed reason =>
      cases closing
      rfl
    | response response => cases closing
    | notification notification => cases closing
    | errorOutput text => cases closing
  | eventsEnded =>
    cases closing
    rfl
  | start request => cases closing
  | sent call result => cases closing
  | resume call => cases closing
  | drop call => cases closing
  | setHandler handler name => cases closing

theorem Step.resolution?_eq_some {step : Step} {id : Id} {answer : Answer}
    (resolved : step.resolution? id = some answer) :
    (∃ response, step = .receive (.response response) ∧ response.id = some id ∧
        answer = response.result.mapError .server) ∨
      ∃ error, step.shutdown? = some error ∧ answer = .error (.transport error) := by
  cases step with
  | receive event =>
    cases event with
    | response response =>
      simp only [resolution?, Option.ite_none_right_eq_some, Option.some.injEq] at resolved
      exact .inl ⟨response, rfl, resolved.1, resolved.2.symm⟩
    | closed error => exact .inr ⟨error, rfl, (Option.some.inj resolved).symm⟩
    | notification notification => cases resolved
    | errorOutput text => cases resolved
  | eventsEnded => exact .inr ⟨_, rfl, (Option.some.inj resolved).symm⟩
  | start request => cases resolved
  | sent call result => cases resolved
  | resume call => cases resolved
  | drop call => cases resolved
  | setHandler handler name => cases resolved

def refusal? (client : Client) (id : Id) : Option RequestError :=
  match client.shutdown with
  | some error => some (.transport error)
  | none => if (client.pending? id).isSome then some (.duplicateId id) else none

def addCall (client : Client) (id : Id) (stage : Stage) : Client :=
  { client with calls := client.calls ++ [⟨id, stage, .empty⟩] }

def register (client : Client) (id : Id) : Client :=
  { client.addCall id .sending with pending := client.pending ++ [⟨id, client.calls.length⟩] }

/-- A client that was just shut down: all pending requests are answered. -/
def closeWith (client : Client) (error : TransportError) : Client :=
  client.pending.foldl (fun held pending => held.fill pending.call (.error (.transport error)))
    { client with pending := [], shutdown := some error }

/-- Steps that find nothing to do. -/
def Idle (client : Client) : Step → Prop
  | .start _ => False
  | .sent call _ => ∀ id slot, client.calls[call]? ≠ some ⟨id, .sending, slot⟩
  | .resume call => ∀ id slot, client.calls[call]? = some ⟨id, .waiting, slot⟩ → slot = .empty
  | .drop call => ∀ held, client.calls[call]? = some held → held.stage.isOpen = false
  | .receive (.response response) => ∀ id, response.id = some id → client.pending? id = none
  | .receive (.closed _) | .eventsEnded => client.shutdown ≠ none
  | .receive (.notification _) | .receive (.errorOutput _) | .setHandler _ _ => True

/-- The transitions of a client. -/
inductive Transition (client : Client) : Step → Client → Prop where
  | refuse {request : Request} {error : RequestError}
      (refused : client.refusal? request.id = some error) :
      Transition client (.start request) (client.addCall request.id (.returned (.error error)))
  | register {request : Request} (accepted : client.refusal? request.id = none) :
      Transition client (.start request) (client.register request.id)
  | deliver {call : Nat} {id : Id} {slot : Slot}
      (sending : client.calls[call]? = some ⟨id, .sending, slot⟩) :
      Transition client (.sent call (.ok ())) (client.setStage call .waiting)
  | fail {call : Nat} {id : Id} {slot : Slot} {error : TransportError}
      (sending : client.calls[call]? = some ⟨id, .sending, slot⟩) :
      Transition client (.sent call (.error error))
        ((client.remove id).setStage call (.returned (.error (.transport error))))
  | cancel {call : Nat} {held : RequestCall} (made : client.calls[call]? = some held)
      (running : held.stage.isOpen = true) :
      Transition client (.drop call) ((client.remove held.id).setStage call .dropped)
  | answer {call : Nat} {id : Id} {answer : Answer}
      (ready : client.calls[call]? = some ⟨id, .waiting, .filled answer⟩) :
      Transition client (.resume call) (client.setStage call (.returned answer))
  | forsake {call : Nat} {id : Id}
      (forsaken : client.calls[call]? = some ⟨id, .waiting, .abandoned⟩) :
      Transition client (.resume call) (client.setStage call (.returned (.error unanswered)))
  | respond {response : Response} {id : Id} {entry : Pending} (named : response.id = some id)
      (found : client.pending? id = some entry) :
      Transition client (.receive (.response response))
        ((client.forget id).fill entry.call (response.result.mapError .server))
  | close {step : Step} {error : TransportError} (closing : step.shutdown? = some error)
      (running : client.shutdown = none) : Transition client step (client.closeWith error)
  | idle {step : Step} (nothing : client.Idle step) (handlers : Handlers) :
      Transition client step { client with handlers := handlers }

theorem Transition.unchanged {client : Client} {step : Step} (nothing : client.Idle step) :
    client.Transition step client := .idle nothing client.handlers

theorem transition_start (client : Client) (request : Request) :
    client.Transition (.start request) (client.start request).1 := by
  unfold start
  split
  · rename_i error recorded
    exact .refuse (by simp only [refusal?, recorded])
  · rename_i running
    split
    · rename_i pending
      exact .refuse (by simp only [refusal?, running, pending, if_true])
    · rename_i free
      exact .register (by simp only [refusal?, running, free]; rfl)

theorem transition_sent (client : Client) (call : Nat) (result : Except TransportError Unit) :
    client.Transition (.sent call result) (client.sent call result).1 := by
  unfold sent
  split
  · rename_i id slot sending
    cases result with
    | ok => exact .deliver sending
    | error error => exact .fail sending
  · rename_i other
    exact .unchanged other

theorem transition_resume (client : Client) (call : Nat) :
    client.Transition (.resume call) (client.resume call).1 := by
  unfold resume
  split
  · rename_i id answer ready
    exact .answer ready
  · rename_i id forsaken
    exact .forsake forsaken
  · rename_i unfilled kept
    refine .unchanged ?_
    intro id slot waiting
    cases slot with
    | empty => rfl
    | filled answer => exact absurd waiting (unfilled id answer)
    | abandoned => exact absurd waiting (kept id)

theorem transition_drop (client : Client) (call : Nat) :
    client.Transition (.drop call) (client.drop call).1 := by
  unfold drop
  dsimp only
  split
  · rename_i id slot sending
    exact .cancel sending rfl
  · rename_i id slot waiting
    exact .cancel waiting rfl
  · rename_i unsent unawaited
    refine .unchanged ?_
    intro held made
    obtain ⟨id, stage, slot⟩ := held
    cases stage with
    | sending => exact absurd made (unsent id slot)
    | waiting => exact absurd made (unawaited id slot)
    | returned answer => rfl
    | dropped => rfl

theorem transition_respond (client : Client) (response : Response) :
    client.Transition (.receive (.response response)) (client.respond response).1 := by
  unfold respond
  split
  · rename_i unnamed
    have nothing : client.Idle (.receive (.response response)) := by
      intro id named
      rw [unnamed] at named
      cases named
    split <;> exact .unchanged nothing
  · rename_i id named
    split
    · rename_i unknown
      refine .unchanged ?_
      intro other same
      rw [named] at same
      cases same
      exact unknown
    · rename_i entry found
      exact .respond named found

theorem transition_shutDown (client : Client) {step : Step} {error : TransportError}
    (closing : step.shutdown? = some error) (idle : client.shutdown ≠ none → client.Idle step) :
    client.Transition step (client.shutDown error).1 := by
  unfold shutDown
  split
  · rename_i recorded before
    exact .unchanged (idle (by rw [before]; exact nofun))
  · rename_i running
    exact .close closing running

theorem transition_step (client : Client) (step : Step) :
    client.Transition step (client.step step).1 := by
  cases step with
  | start request => exact client.transition_start request
  | sent call result => exact client.transition_sent call result
  | resume call => exact client.transition_resume call
  | drop call => exact client.transition_drop call
  | receive event =>
    cases event with
    | response response => exact client.transition_respond response
    | notification notification =>
      simp only [Client.step, receive]
      split <;> exact .unchanged trivial
    | errorOutput text =>
      simp only [Client.step, receive]
      split <;> exact .unchanged trivial
    | closed error => exact client.transition_shutDown rfl id
  | eventsEnded => exact client.transition_shutDown rfl id
  | setHandler handler name =>
    have nothing : client.Idle (.setHandler handler name) := trivial
    exact .idle nothing (client.handlers.set handler name)

end Client

end LanguageClient
