import LanguageClient.Call.Dialogue
import LanguageClient.Call.Messages

set_option autoImplicit false

namespace LanguageClient

namespace Call

def internalError : Int64 := -32603

def ask {α : Type} (decoder : Json.Decoder α) (request : Request) :
    Dialogue (Except RequestError α) :=
  .request request fun
    | .error error => .finish (.error error)
    | .ok result =>
      match decoder result with
      | .ok value => .finish (.ok value)
      | .error reason =>
        let text := "Failed to decode result of " ++ request.method ++ ": " ++ reason.message
        .record ⟨.error, .client, text⟩
          (.finish (.error (.server ⟨internalError, text, some result⟩)))

/-- Greets the server and announces that the client is ready; what the server can do. -/
def handshake (id : Id) (rootUri : String) (process : UInt32) :
    Dialogue (Except RequestError Json) :=
  .request (.handshake id rootUri process) fun
    | .error error => .finish (.error error)
    | .ok result =>
      .notify .initialized fun
        | .error error => .finish (.error (.transport error))
        | .ok () =>
          .record ⟨.info, .calls, "LSP server initialized for " ++ rootUri⟩
            (.finish (.ok ((result.member? "capabilities").getD .null)))

/-- Asks the server to shut down, and tells it to exit once it has. -/
def shutdownAndExit (id : Id) : Dialogue (Except RequestError Unit) :=
  .request (.shutdown id) fun
    | .error error => .finish (.error error)
    | .ok _ =>
      .notify .exit fun
        | .error error => .finish (.error (.transport error))
        | .ok () => .finish (.ok ())

def notify (notification : Notification) : Dialogue (Except TransportError Unit) :=
  .notify notification .finish

def listOrNull {α : Type} (element : Json.Decoder α) : Json.Decoder (List α) := fun value =>
  (Json.Decoder.option (.list element) value).map (·.getD [])

def symbols (id : Id) (uri : String) : Dialogue (Except RequestError (List Symbol)) :=
  ask (listOrNull Symbol.ofJson) (.documentSymbols id uri)

/-- The symbols of all documents that match a query; their form differs between servers. -/
def workspaceSymbols (id : Id) (query : String) : Dialogue (Except RequestError Json) :=
  .request (.workspaceSymbols id query) .finish

def references (id : Id) (symbol : Symbol) (uri : String) :
    Dialogue (Except RequestError (List Location)) :=
  ask (listOrNull Location.ofJson) (.references id symbol uri)

end Call

end LanguageClient
