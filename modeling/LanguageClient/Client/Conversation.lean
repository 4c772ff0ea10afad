import LanguageClient.Client.Step
import LanguageClient.Connection.Duplex

set_option autoImplicit false

namespace LanguageClient

structure Conversation where
  client : Client
  duplex : Duplex := {}
  log : Log := []
  /-- The records that are made of an event. -/
  observe : Event → Log

namespace Conversation

def listener : String := "listener"

def begin (observe : Event → Log) : Conversation where
  client := { handlers := ⟨some listener, some listener, some listener⟩ }
  observe := observe

def note (conversation : Conversation) (log : Log) : Conversation :=
  { conversation with log := conversation.log ++ log }

/-- Records an effect; what is handed over is left to the caller. -/
def record (conversation : Conversation) (effect : Client.Effect) : Conversation :=
  match effect with
  | .hand _ _ => conversation
  | .run _ event => conversation.note (conversation.observe event)
  | .log record => conversation.note [record]

def perform (conversation : Conversation) (step : Client.Step) :
    Conversation × List Client.Effect :=
  let (client, effects) := conversation.client.step step
  (effects.foldl record { conversation with client := client }, effects)

def send (conversation : Conversation) (sender : Nat) (message : Message) :
    Except TransportError Unit × Conversation :=
  let (result, log, duplex) := conversation.duplex.send sender message
  (result, { conversation with duplex := duplex }.note log)

def handed? : Client.Effect → Option Message
  | .hand _ message => some message
  | _ => none

/-- Begins to ask: the number of the call, and the message if it was sent. -/
def ask (conversation : Conversation) (request : Request) :
    Nat × Option Message × Conversation :=
  let call := conversation.client.calls.length
  let (started, effects) := conversation.perform (.start request)
  match effects.findSome? handed? with
  | none => (call, none, started)
  | some message =>
    let (result, sent) := started.send call message
    (call, if result matches .ok () then some message else none,
      (sent.perform (.sent call result)).1)

def tell (conversation : Conversation) (notification : Notification) :
    Except TransportError Unit × Option Message × Conversation :=
  match conversation.client.notify notification with
  | .error error => (.error error, none, conversation)
  | .ok (log, message) =>
    let (result, sent) := (conversation.note log).send conversation.client.calls.length message
    (result, if result matches .ok () then some message else none, sent)

def receive (conversation : Conversation) (emission : Emission) : Conversation :=
  emission.events.foldl (fun held event => (held.perform (.receive event)).1)
    (conversation.note emission.log)

def hear (conversation : Conversation) (data : Bytes) : Conversation :=
  if data = [] then conversation
  else
    let (emission, duplex) := conversation.duplex.arrive data
    { conversation with duplex := duplex }.receive emission

/-- The output of the server ends, and with it the events. -/
def hearEnd (conversation : Conversation) (ending : Ending) : Conversation :=
  if conversation.duplex.isOver then conversation
  else
    let (emission, duplex) := conversation.duplex.finish ending
    (({ conversation with duplex := duplex }.receive emission).perform .eventsEnded).1

def answer? (conversation : Conversation) (call : Nat) : Option Answer × Conversation :=
  let (resumed, _) := conversation.perform (.resume call)
  (resumed.client.answer? call, resumed)

end Conversation

end LanguageClient
