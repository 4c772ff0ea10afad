import LanguageClient.Call.Dialogue
import LanguageClient.Client.Conversation
import LanguageClient.CommandLine.Session
import LanguageClient.Log.Console
import LanguageClient.Scenario.Host
import LanguageClient.Scenario.Server

set_option autoImplicit false

namespace LanguageClient

namespace Scenario

structure Rehearsal where
  conversation : Conversation
  server : Server
  /-- What the server wrote but the client has not heard. -/
  unheard : Written := {}
  printed : String := ""

namespace Rehearsal

def serve (rehearsal : Rehearsal) (message : Option Message) : Rehearsal :=
  match message with
  | none => rehearsal
  | some message =>
    let (written, server) := rehearsal.server.react message
    { rehearsal with server := server, unheard := rehearsal.unheard.append written }

def listen (rehearsal : Rehearsal) : Rehearsal :=
  let heard := rehearsal.conversation.hear rehearsal.unheard.bytes
  { rehearsal with
    conversation := if rehearsal.unheard.ends then heard.hearEnd .closed else heard
    unheard := {} }

/-- Goes through a dialogue; no value if an answer never comes. -/
def run {α : Type} (rehearsal : Rehearsal) : Dialogue α → Option α × Rehearsal
  | .finish value => (some value, rehearsal)
  | .record record next =>
    run { rehearsal with conversation := rehearsal.conversation.note [record] } next
  | .print text next => run { rehearsal with printed := rehearsal.printed ++ text } next
  | .notify notification next =>
    let (result, message, conversation) := rehearsal.conversation.tell notification
    run ({ rehearsal with conversation := conversation }.serve message) (next result)
  | .request request next =>
    let (call, message, conversation) := rehearsal.conversation.ask request
    let listened := ({ rehearsal with conversation := conversation }.serve message).listen
    let (answer, conversation) := listened.conversation.answer? call
    let answered := { listened with conversation := conversation }
    match answer with
    | some answer => run answered (next answer)
    | none => (none, answered)

end Rehearsal

end Scenario

end LanguageClient
