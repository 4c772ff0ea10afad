import LanguageClient.Call.Dialogue
import LanguageClient.Call.Uuid
import LanguageClient.Client.Step
import LanguageClient.Connection.Duplex
import LanguageClient.Document.Language

set_option autoImplicit false

/-!
A client that is rehearsed: its calls, its server and its connection take the steps of a script. The
connection is either one of byte streams, or a stand-in that records messages and can hold them
back or refuse them.
-/

namespace LanguageClient

namespace Scenario

inductive Outcome where
  | value (value : Json)
  | failed (error : RequestError)
  | unsent (error : TransportError)
deriving DecidableEq

namespace Outcome

def typed {α : Type} (encode : α → Json) (dialogue : Dialogue (Except RequestError α)) :
    Dialogue Outcome :=
  dialogue.bind fun
    | .ok content => .finish (.value (encode content))
    | .error error => .finish (.failed error)

def untyped (dialogue : Dialogue (Except RequestError Json)) : Dialogue Outcome :=
  typed (fun content => content) dialogue

def told (notification : Notification) : Dialogue Outcome :=
  .notify notification fun
    | .ok () => .finish (.value .null)
    | .error error => .finish (.unsent error)

end Outcome

inductive Waiting where
  | answer (call : Nat) (next : Except RequestError Json → Dialogue Outcome)
  | delivery (next : Except TransportError Unit → Dialogue Outcome)

structure Task where
  number : Nat
  name : String
  waiting : Waiting

/-- A message that was handed over but is held back. -/
structure Held where
  task : Nat
  message : Message

/-- A connection that records what it is handed. -/
structure Recorder where
  refusal : Option TransportError := none
  holding : Bool := false
  held : List Held := []
  attached : Bool := true

inductive Link where
  | recorder (recorder : Recorder)
  | stream (duplex : Duplex)

/-- What a script gets to see of the client's handlers, and of its own faults. -/
inductive Sight where
  | handled (handler : String) (event : Event)
  | unreadable (error : ProtocolError)

structure Report where
  finished : List (String × Outcome) := []
  seen : List Sight := []
  recorded : List Message := []
  log : Log := []

end Scenario

structure Scenario where
  client : Client := {}
  link : Scenario.Link
  language : Language
  ids : IdSource
  tasks : List Scenario.Task := []
  begun : Nat := 0
  /-- The ids that calls have sent, the last one first. -/
  asked : List (String × Id) := []
  report : Scenario.Report := {}

end LanguageClient
