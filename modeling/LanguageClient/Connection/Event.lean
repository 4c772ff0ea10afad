import LanguageClient.Call.Error
import LanguageClient.Log
import LanguageClient.Message.Json

set_option autoImplicit false

namespace LanguageClient

inductive Event where
  | response (response : Response)
  | notification (notification : Notification)
  | errorOutput (text : String)
  | closed (error : TransportError)
deriving DecidableEq

/-- Events for the client, and the records made on the way. -/
structure Emission where
  events : List Event := []
  log : Log := []
deriving DecidableEq

namespace Emission

def append (a b : Emission) : Emission := ⟨a.events ++ b.events, a.log ++ b.log⟩

instance : Append Emission := ⟨append⟩

@[simp] theorem events_append (a b : Emission) : (a ++ b).events = a.events ++ b.events := rfl

@[simp] theorem log_append (a b : Emission) : (a ++ b).log = a.log ++ b.log := rfl

def concat (parts : List Emission) : Emission :=
  ⟨parts.flatMap Emission.events, parts.flatMap Emission.log⟩

def ofEvent (event : Event) : Emission := { events := [event] }

/-- A message of the server. Its requests are not answered; they are reported as error output. -/
def ofMessage (message : Message) : Emission :=
  match message with
  | .response response => ofEvent (.response response)
  | .notification notification => ofEvent (.notification notification)
  | .request request =>
    { events := [.errorOutput ("Unsupported request from LSP server: " ++ message.render)]
      log := [⟨.warn, .events, "Received request from LSP server (id: " ++ request.id.render ++
        ", method: " ++ request.method ++ ")"⟩] }

def unheard : Log.Record := ⟨.error, .events, "LSP event dropped: no client is listening"⟩

/-- What becomes of the events: without a listener each is lost, and a record takes its place. -/
def heard (listening : Bool) (emission : Emission) : Emission :=
  if listening then emission
  else ⟨[], emission.log ++ emission.events.map fun _ => unheard⟩

end Emission

end LanguageClient
