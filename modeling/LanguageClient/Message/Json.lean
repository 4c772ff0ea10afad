import LanguageClient.Json.Parser
import LanguageClient.Message.Basic
import LanguageClient.Message.ProtocolError

set_option autoImplicit false

/-!
Messages as JSON. What a message is hangs on its members: without an id it is a notification, with
a result or an error it is a response, and else a request. A method beside a result or an error is
refused. Members that the kind of a message does not use are ignored.
-/

namespace LanguageClient

abbrev Members := List (String × Json)

namespace Message

def readId : Json → Except ProtocolError (Option Id)
  | .null => .ok none
  | .string value => .ok (some (.text value))
  | value =>
    match value.toInt64? with
    | some number => .ok (some (.number number))
    | none => .error .invalidId

def readText (members : Members) (field : String) : Except ProtocolError String :=
  match members.lookup field with
  | none => .error (.missingField field)
  | some (.string value) => .ok value
  | some _ => .error (.invalidField field "a string")

end Message

def Params.ofJson : Json → Except ProtocolError Params
  | .object members => .ok (.object members)
  | .array elements => .ok (.array elements)
  | _ => .error (.invalidField "params" "an object or an array")

def Params.toJson : Params → Json
  | .object members => .object members
  | .array elements => .array elements

/-- Params may be absent, but not null. -/
def Message.readParams (members : Members) : Except ProtocolError (Option Params) :=
  match members.lookup "params" with
  | none => .ok none
  | some value => (Params.ofJson value).map some

def ResponseError.ofJson : Json → Except ProtocolError ResponseError
  | .object members => do
    let code ← match members.lookup "code" with
      | none => .error (.missingField "code")
      | some value =>
        match value.toInt64? with
        | some code => .ok code
        | none => .error (.invalidField "code" "an integer")
    let message ← Message.readText members "message"
    return ⟨code, message, members.lookup "data"⟩
  | _ => .error (.invalidField "error" "an object")

def ResponseError.toJson (error : ResponseError) : Json :=
  .object ([("code", .ofInt64 error.code)] ++ error.data.toList.map (("data", ·)) ++
    [("message", .string error.message)])

def Id.toJson : Id → Json
  | .text value => .string value
  | .number value => .ofInt64 value

namespace Message

def ofMembers (members : Members) : Except ProtocolError Message := do
  match members.lookup "id" with
  | none =>
    return .notification ⟨← readText members "method", ← readParams members⟩
  | some idValue =>
    let id ← readId idValue
    match members.lookup "result", members.lookup "error" with
    | some result, _ =>
      if (members.lookup "method").isSome then .error (.ambiguousKind "result")
      else return .response ⟨id, .ok result⟩
    | none, some error =>
      if (members.lookup "method").isSome then .error (.ambiguousKind "error")
      else return .response ⟨id, .error (← ResponseError.ofJson error)⟩
    | none, none =>
      match id with
      | none => .error .nullIdRequest
      | some id => return .request ⟨id, ← readText members "method", ← readParams members⟩

def ofJson : Json → Except ProtocolError Message
  | .object members => ofMembers members
  | _ => .error .notAnObject

def version : String × Json := ("jsonrpc", .string "2.0")

def paramsMember (params : Option Params) : Members :=
  params.toList.map fun params => ("params", params.toJson)

def toJson : Message → Json
  | .request ⟨id, method, params⟩ =>
    .object ([("id", id.toJson), version, ("method", .string method)] ++ paramsMember params)
  | .notification ⟨method, params⟩ =>
    .object ([version, ("method", .string method)] ++ paramsMember params)
  | .response ⟨id, .ok result⟩ =>
    .object [("id", id.elim .null Id.toJson), version, ("result", result)]
  | .response ⟨id, .error error⟩ =>
    .object [("error", error.toJson), ("id", id.elim .null Id.toJson), version]

def decode (input : Bytes) : Except ProtocolError Message :=
  match Json.parse input with
  | .ok value => ofJson value
  | .error error => .error (.invalidJson error)

def encode (message : Message) : Bytes := message.toJson.encode

def render (message : Message) : String := message.toJson.render

end Message

end LanguageClient
