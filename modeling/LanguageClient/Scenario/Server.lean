import LanguageClient.Message.Json
import LanguageClient.Packet.Segment

set_option autoImplicit false

namespace LanguageClient

namespace Scenario

structure Reply where
  before : List Bytes := []
  raw : Bytes := []
  closes : Bool := false
  /-- The text of the member that answers a request. -/
  answer : Bytes := Utf8.bytes "\"result\":null"

structure Server where
  replies : List (String × Reply)
  received : List Message := []
  closed : Bool := false

/-- What the server writes: bytes, and whether its output ends after them. -/
structure Written where
  bytes : Bytes := []
  ends : Bool := false

def Written.append (a b : Written) : Written := ⟨a.bytes ++ b.bytes, a.ends || b.ends⟩

namespace Server

def response (id : Id) (answer : Bytes) : Bytes :=
  Segment.wrap (Utf8.bytes "\x7b\"jsonrpc\":\"2.0\",\"id\":" ++ id.toJson.encode ++
    Utf8.bytes "," ++ answer ++ Utf8.bytes "\x7d")

/-- Takes a message. The wish to exit is not heeded: the server runs until its input ends. -/
def react (server : Server) (message : Message) : Written × Server :=
  let (method, id) : String × Option Id := match message with
    | .request request => (request.method, some request.id)
    | .notification notification => (notification.method, none)
    | .response _ => ("", none)
  if id.isNone ∧ method = "exit" then ({}, server)
  else
    let noted := { server with received := server.received ++ [message] }
    if server.closed then ({}, noted)
    else
      let reply := (server.replies.lookup method).getD {}
      let sent := reply.before.flatMap Segment.wrap ++ reply.raw
      if reply.closes then (⟨sent, true⟩, { noted with closed := true })
      else (⟨sent ++ (id.elim [] fun id => response id reply.answer), false⟩, noted)

end Server

end Scenario

end LanguageClient
