import LanguageClient.Proofs.Call.Course
import LanguageClient.Proofs.Client.Shutdown

set_option autoImplicit false

namespace LanguageClient

/-- Something that happens while a dialogue goes on. -/
inductive Occurrence where
  | heard (event : Event)
  | handed (message : Message)
  | turned (turn : Turn)

namespace Occurrence

def turn? : Occurrence → Option Turn
  | turned turn => some turn
  | heard _ | handed _ => none

def message? : Occurrence → Option Message
  | handed message => some message
  | heard _ | turned _ => none

end Occurrence

abbrev History := List Occurrence

namespace History

def turns (history : History) : List Turn := history.filterMap Occurrence.turn?

def handed (history : History) : List Message := history.filterMap Occurrence.message?

@[simp] theorem turns_append (history more : History) :
    turns (history ++ more) = history.turns ++ turns more := List.filterMap_append

@[simp] theorem handed_append (history more : History) :
    handed (history ++ more) = history.handed ++ handed more := List.filterMap_append

/-- The server has answered a request with a result: its response was heard when the request had
been handed over. -/
def Answers (history : History) (request : Request) (result : Json) : Prop :=
  ∃ before between after, history = before ++ .handed (.request request) :: between ++
    .heard (.response ⟨some request.id, .ok result⟩) :: after

theorem Answers.append {history : History} {request : Request} {result : Json}
    (answers : history.Answers request result) (more : History) :
    Answers (history ++ more) request result := by
  obtain ⟨before, between, after, rfl⟩ := answers
  exact ⟨before, between, after ++ more, by simp⟩

theorem answers_concat {history : History} {request : Request} {result : Json}
    (handed : .handed (.request request) ∈ history) :
    Answers (history ++ [.heard (.response ⟨some request.id, .ok result⟩)]) request result := by
  obtain ⟨before, between, rfl⟩ := List.append_of_mem handed
  exact ⟨before, between, [], rfl⟩

end History

/-- What one does who goes through a dialogue. -/
inductive Activity (α : Type) where
  | saying (dialogue : Dialogue α)
  | telling (notification : Notification) (next : Except TransportError Unit → Dialogue α)
  /-- A call asks, and has not seen its answer. -/
  | asking (request : Request) (next : Answer → Dialogue α) (call : Nat)

namespace Activity

variable {α : Type}

/-- What is still to be done, with what is on the way. -/
def dialogue : Activity α → Dialogue α
  | saying dialogue => dialogue
  | telling notification next => .notify notification next
  | asking request next _ => .request request next

def message? : Activity α → Option Message
  | saying _ => none
  | telling notification _ => some (.notification notification)
  | asking request _ _ => some (.request request)

end Activity

structure Encounter (α : Type) where
  client : Client
  activity : Activity α
  history : History := []

namespace Encounter

inductive Move where
  | hear (event : Event)
  | eventsEnded
  | sent (result : Except TransportError Unit)
  /-- The next thing is said, or the answer is looked for. -/
  | proceed

variable {α : Type}

def begin (handlers : Handlers) (dialogue : Dialogue α) : Encounter α where
  client := { handlers := handlers }
  activity := .saying dialogue

def note (encounter : Encounter α) (occurrence : Occurrence) : Encounter α :=
  { encounter with history := encounter.history ++ [occurrence] }

def take (encounter : Encounter α) (step : Client.Step) : Encounter α :=
  let (client, effects) := encounter.client.step step
  { encounter with
    client := client
    history := encounter.history ++ (effects.filterMap Client.Effect.handed?).map .handed }

def finishTurn (encounter : Encounter α) (turn : Turn) (next : Dialogue α) : Encounter α :=
  { encounter.note (.turned turn) with activity := .saying next }

def say (encounter : Encounter α) : Dialogue α → Encounter α
  | .finish _ => encounter
  | .record _ next => { encounter with activity := .saying next }
  | .print text next => encounter.finishTurn (.printed text) next
  | .notify notification next =>
    match encounter.client.notify notification with
    | .error error => encounter.finishTurn (.told notification (.error error)) (next (.error error))
    | .ok (_, message) =>
      { encounter.note (.handed message) with activity := .telling notification next }
  | .request request next =>
    { encounter.take (.start request) with
      activity := .asking request next encounter.client.calls.length }

def look (encounter : Encounter α) (request : Request) (next : Answer → Dialogue α) (call : Nat) :
    Encounter α :=
  let resumed := encounter.take (.resume call)
  match resumed.client.answer? call with
  | some answer => resumed.finishTurn (.asked request answer) (next answer)
  | none => resumed

def step (encounter : Encounter α) : Move → Encounter α
  | .hear event => (encounter.take (.receive event)).note (.heard event)
  | .eventsEnded => encounter.take .eventsEnded
  | .sent result =>
    match encounter.activity with
    | .saying _ => encounter
    | .telling notification next => encounter.finishTurn (.told notification result) (next result)
    | .asking _ _ call => encounter.take (.sent call result)
  | .proceed =>
    match encounter.activity with
    | .saying dialogue => encounter.say dialogue
    | .telling _ _ => encounter
    | .asking request next call => encounter.look request next call

def run (encounter : Encounter α) (moves : List Move) : Encounter α := moves.foldl step encounter

/-- What was said until now, whether it was handed over or not. -/
def said (encounter : Encounter α) : List Message :=
  Turn.messages encounter.history.turns ++ encounter.activity.message?.toList

end Encounter

end LanguageClient
