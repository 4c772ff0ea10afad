import LanguageClient.Proofs.Client.Encounter
import LanguageClient.Scenario.Trial

set_option autoImplicit false

namespace LanguageClient

namespace Conversation

@[simp] theorem client_record (conversation : Conversation) (effect : Client.Effect) :
    (conversation.record effect).client = conversation.client := by
  cases effect <;> rfl

@[simp] theorem client_foldl_record (effects : List Client.Effect) (conversation : Conversation) :
    (effects.foldl record conversation).client = conversation.client := by
  induction effects generalizing conversation with
  | nil => rfl
  | cons effect rest ih => rw [List.foldl_cons, ih, client_record]

@[simp] theorem client_perform (conversation : Conversation) (step : Client.Step) :
    (conversation.perform step).1.client = (conversation.client.step step).1 :=
  client_foldl_record _ _

@[simp] theorem client_note (conversation : Conversation) (log : Log) :
    (conversation.note log).client = conversation.client := rfl

@[simp] theorem client_send (conversation : Conversation) (sender : Nat) (message : Message) :
    (conversation.send sender message).2.client = conversation.client := rfl

end Conversation

namespace Client

/-- Something can be heard that brings one client to another, whatever is said at the time. -/
def HearsTo (client next : Client) : Prop :=
  ∃ moves, ∀ (α : Type) (encounter : Encounter α), encounter.client = client →
    (encounter.run moves).client = next ∧ (encounter.run moves).activity = encounter.activity

theorem HearsTo.refl (client : Client) : client.HearsTo client :=
  ⟨[], fun _ _ same => ⟨same, rfl⟩⟩

theorem HearsTo.trans {client next last : Client} (first : client.HearsTo next)
    (second : next.HearsTo last) : client.HearsTo last := by
  obtain ⟨moves, heard⟩ := first
  obtain ⟨more, further⟩ := second
  refine ⟨moves ++ more, fun α encounter same => ?_⟩
  obtain ⟨now, still⟩ := heard α encounter same
  obtain ⟨later, kept⟩ := further α (encounter.run moves) now
  rw [Encounter.run, List.foldl_append]
  exact ⟨later, kept.trans still⟩

theorem hearsTo_receive (client : Client) (event : Event) :
    client.HearsTo (client.step (.receive event)).1 := by
  refine ⟨[.hear event], fun α encounter same => ?_⟩
  rw [← same]
  exact ⟨rfl, rfl⟩

theorem hearsTo_eventsEnded (client : Client) : client.HearsTo (client.step .eventsEnded).1 := by
  refine ⟨[.eventsEnded], fun α encounter same => ?_⟩
  rw [← same]
  exact ⟨rfl, rfl⟩

end Client

namespace Conversation

theorem hearsTo_of_receive (conversation : Conversation) (emission : Emission) :
    conversation.client.HearsTo (conversation.receive emission).client := by
  unfold receive
  rw [← client_note conversation emission.log]
  generalize conversation.note emission.log = held
  induction emission.events generalizing held with
  | nil => exact .refl _
  | cons event rest ih =>
    have first := Client.hearsTo_receive held.client event
    rw [← client_perform] at first
    exact first.trans (ih _)

theorem hearsTo_of_hear (conversation : Conversation) (data : Bytes) :
    conversation.client.HearsTo (conversation.hear data).client := by
  unfold hear
  split
  · exact .refl _
  · exact hearsTo_of_receive { conversation with duplex := (conversation.duplex.arrive data).2 }
      (conversation.duplex.arrive data).1

theorem hearsTo_of_hearEnd (conversation : Conversation) (ending : Ending) :
    conversation.client.HearsTo (conversation.hearEnd ending).client := by
  unfold hearEnd
  split
  · exact .refl _
  · have heard := hearsTo_of_receive
      { conversation with duplex := (conversation.duplex.finish ending).2 }
      (conversation.duplex.finish ending).1
    have ended := Client.hearsTo_eventsEnded (receive
      { conversation with duplex := (conversation.duplex.finish ending).2 }
      (conversation.duplex.finish ending).1).client
    rw [← client_perform] at ended
    exact heard.trans ended

theorem exists_moves_of_ask {α : Type} {encounter : Encounter α} {conversation : Conversation}
    (same : encounter.client = conversation.client) {request : Request}
    {next : Answer → Dialogue α}
    (saying : encounter.activity = .saying (.request request next)) :
    ∃ moves, (encounter.run moves).client = (conversation.ask request).2.2.client ∧
      (encounter.run moves).activity =
        .asking request next (conversation.ask request).1 := by
  obtain ⟨client, activity, history⟩ := encounter
  cases same
  cases saying
  unfold ask
  dsimp only
  split
  · refine ⟨[.proceed], ?_⟩
    rw [client_perform]
    exact ⟨rfl, rfl⟩
  · rename_i message handed
    refine ⟨[.proceed, .sent (send (conversation.perform (.start request)).1
      conversation.client.calls.length message).1], ?_⟩
    rw [client_perform, client_send, client_perform]
    exact ⟨rfl, rfl⟩

/-- A notification is sent, or refused, in moves of an encounter. -/
theorem exists_moves_of_tell {α : Type} {encounter : Encounter α} {conversation : Conversation}
    (same : encounter.client = conversation.client) {notification : Notification}
    {next : Except TransportError Unit → Dialogue α}
    (saying : encounter.activity = .saying (.notify notification next)) :
    ∃ moves, (encounter.run moves).client = (conversation.tell notification).2.2.client ∧
      (encounter.run moves).activity = .saying (next (conversation.tell notification).1) := by
  cases recorded : conversation.client.shutdown with
  | some error =>
    refine ⟨[.proceed], ?_⟩
    simp only [Encounter.run, List.foldl_cons, List.foldl_nil, Encounter.step, saying,
      Encounter.say, tell, Client.notify, same, recorded]
    exact ⟨same, rfl⟩
  | none =>
    refine ⟨[.proceed, .sent (conversation.tell notification).1], ?_⟩
    simp only [Encounter.run, List.foldl_cons, List.foldl_nil, Encounter.step, saying,
      Encounter.say, tell, Client.notify, same, recorded]
    exact ⟨same, rfl⟩

theorem run_proceed_of_asking {α : Type} {encounter : Encounter α} {conversation : Conversation}
    (same : encounter.client = conversation.client) {request : Request}
    {next : Answer → Dialogue α} {call : Nat}
    (asking : encounter.activity = .asking request next call) :
    (encounter.run [.proceed]).client = (conversation.answer? call).2.client ∧
      ∀ answer, (conversation.answer? call).1 = some answer →
        (encounter.run [.proceed]).activity = .saying (next answer) := by
  simp only [Encounter.run, List.foldl_cons, List.foldl_nil, Encounter.step, asking,
    Encounter.look, answer?, client_perform, ← same]
  split
  · rename_i answer returned
    refine ⟨rfl, fun other found => ?_⟩
    have agree := returned.symm.trans found
    cases agree
    rfl
  · rename_i unanswered
    refine ⟨rfl, fun other found => ?_⟩
    have agree := unanswered.symm.trans found
    cases agree

end Conversation

namespace Scenario

namespace Rehearsal

theorem hearsTo_listen (rehearsal : Rehearsal) :
    rehearsal.conversation.client.HearsTo rehearsal.listen.conversation.client := by
  have heard := rehearsal.conversation.hearsTo_of_hear rehearsal.unheard.bytes
  unfold listen
  dsimp only
  split
  · exact heard.trans (Conversation.hearsTo_of_hearEnd _ .closed)
  · exact heard

@[simp] theorem conversation_serve (rehearsal : Rehearsal) (message : Option Message) :
    (rehearsal.serve message).conversation = rehearsal.conversation := by
  cases message <;> rfl

variable {α : Type}

/-- What a rehearsal comes to can be reached in moves of an encounter. -/
def ReachedBy (encounter : Encounter α) (outcome : Option α × Rehearsal) : Prop :=
  ∃ moves, (encounter.run moves).client = outcome.2.conversation.client ∧
    ∀ value, outcome.1 = some value → (encounter.run moves).activity = .saying (.finish value)

theorem ReachedBy.of_run {encounter : Encounter α} {outcome : Option α × Rehearsal}
    (moves : List Encounter.Move) (reached : ReachedBy (encounter.run moves) outcome) :
    ReachedBy encounter outcome := by
  obtain ⟨more, client, finished⟩ := reached
  refine ⟨moves ++ more, ?_⟩
  rw [Encounter.run, List.foldl_append]
  exact ⟨client, finished⟩

/-- A rehearsal is an encounter. -/
theorem reachedBy_run (rehearsal : Rehearsal) (dialogue : Dialogue α) {encounter : Encounter α}
    (same : encounter.client = rehearsal.conversation.client)
    (saying : encounter.activity = .saying dialogue) :
    ReachedBy encounter (rehearsal.run dialogue) := by
  induction dialogue generalizing rehearsal encounter with
  | finish value =>
    refine ⟨[], same, ?_⟩
    intro other finished
    cases finished
    exact saying
  | record record next ih =>
    refine .of_run [.proceed] (ih _ ?_ ?_)
    · simp only [Encounter.run, List.foldl_cons, List.foldl_nil, Encounter.step, saying,
        Encounter.say]
      exact same
    · simp only [Encounter.run, List.foldl_cons, List.foldl_nil, Encounter.step, saying,
        Encounter.say]
  | print text next ih =>
    refine .of_run [.proceed] (ih _ ?_ ?_)
    · simp only [Encounter.run, List.foldl_cons, List.foldl_nil, Encounter.step, saying,
        Encounter.say]
      exact same
    · simp only [Encounter.run, List.foldl_cons, List.foldl_nil, Encounter.step, saying,
        Encounter.say]
      rfl
  | notify notification next ih =>
    obtain ⟨moves, client, told⟩ := Conversation.exists_moves_of_tell same saying
    refine .of_run moves (ih _ _ ?_ told)
    rw [conversation_serve]
    exact client
  | request request next ih =>
    obtain ⟨moves, asked, asking⟩ := Conversation.exists_moves_of_ask same saying
    let served := { rehearsal with
      conversation := (rehearsal.conversation.ask request).2.2 }.serve
        (rehearsal.conversation.ask request).2.1
    have known : (encounter.run moves).client = served.conversation.client := by
      rw [conversation_serve]
      exact asked
    obtain ⟨more, heard⟩ := served.hearsTo_listen
    obtain ⟨listened, still⟩ := heard α _ known
    obtain ⟨resumed, answered⟩ := Conversation.run_proceed_of_asking listened
      (still.trans asking)
    refine .of_run moves (.of_run more ?_)
    unfold run
    dsimp only
    split
    · rename_i answer found
      exact .of_run [.proceed] (ih answer _ resumed (answered answer found))
    · refine ⟨[.proceed], resumed, ?_⟩
      intro value finished
      cases finished

end Rehearsal

namespace Trial

def handlers : Handlers := (Conversation.begin Invocation.observe).client.handlers

/-- A trial whose server was started is an encounter: it ends as this does, unless its server keeps
it waiting. -/
theorem exists_moves_of_launch {surroundings : Surroundings} {invocation : Invocation} {root : Path}
    {launch : Host.Launch}
    (found : surroundings.host.tree.canonical surroundings.host.current invocation.root = .ok root)
    (launched : surroundings.host.launch (Command.ofConfig
      (invocation.config surroundings.interpreter root)) = .ok launch) :
    ∃ moves log received output,
      (∃ result,
        ((Encounter.begin handlers (invocation.session surroundings.ids
          surroundings.identity.process root (reader surroundings.host))).run moves).activity =
            .saying (.finish result) ∧
        runInvocation surroundings invocation =
          ended invocation surroundings log received output result) ∨
      runInvocation surroundings invocation =
        ended invocation surroundings log received output (.error stuck) := by
  let config := invocation.config surroundings.interpreter root
  let session := invocation.session surroundings.ids surroundings.identity.process root
    (reader surroundings.host)
  let written := opening launch (Command.ofConfig config)
  let rehearsal : Rehearsal := {
    conversation := (Conversation.begin Invocation.observe).note
      [config.starting, ServerConfig.started serverProcess]
    server := { replies := surroundings.replies, closed := written.ends }
    unheard := written }
  have ends : runInvocation surroundings invocation =
      ended invocation surroundings (rehearsal.run session).2.conversation.log
        (rehearsal.run session).2.server.received (rehearsal.run session).2.printed
        ((rehearsal.run session).1.getD (.error stuck)) := by
    simp only [runInvocation, found, launched]
    rfl
  have reached : Rehearsal.ReachedBy (Encounter.begin handlers session) (rehearsal.run session) :=
    rehearsal.reachedBy_run session rfl rfl
  obtain ⟨moves, -, finished⟩ := reached
  refine ⟨moves, (rehearsal.run session).2.conversation.log,
    (rehearsal.run session).2.server.received, (rehearsal.run session).2.printed, ?_⟩
  cases outcome : (rehearsal.run session).1 with
  | none =>
    rw [outcome] at ends
    exact .inr ends
  | some result =>
    rw [outcome] at ends
    exact .inl ⟨result, finished result outcome, ends⟩

end Trial

end Scenario

end LanguageClient
