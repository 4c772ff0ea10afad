import LanguageClient.Proofs.Message.RoundTrip

set_option autoImplicit false

namespace LanguageClient

def Params.reread : Params → Params
  | .object members => .object (Json.rereadMembers [] members)
  | .array elements => .array (Json.rereadElements elements)

theorem Params.reread_toJson (params : Params) : params.toJson.reread = params.reread.toJson := by
  cases params <;> rfl

def ResponseError.reread (error : ResponseError) : ResponseError :=
  { error with data := error.data.map Json.reread }

theorem Id.reread_toJson (id : Id) : id.toJson.reread = id.toJson := by
  cases id <;> rfl

namespace Message

open Json

/-- The message that the bytes of a message are read as. -/
def reread : Message → Message
  | .request ⟨id, method, params⟩ => .request ⟨id, method, params.map Params.reread⟩
  | .notification ⟨method, params⟩ => .notification ⟨method, params.map Params.reread⟩
  | .response ⟨id, .ok result⟩ => .response ⟨id, .ok result.reread⟩
  | .response ⟨id, .error error⟩ => .response ⟨id, .error error.reread⟩

theorem reread_members {members others : Members}
    (keys : (members.map Prod.fst).Pairwise (· < ·))
    (each : members.map (fun member => (member.1, member.2.reread)) = others) :
    (Json.object members).reread = .object others := by
  rw [reread_object (List.pairwise_map.mp keys), each]

theorem reread_nullable (id : Option Id) :
    (id.elim .null Id.toJson).reread = id.elim .null Id.toJson := by
  cases id with
  | none => rfl
  | some id => exact id.reread_toJson

theorem reread_errorJson (error : ResponseError) : error.toJson.reread = error.reread.toJson := by
  obtain ⟨code, message, data⟩ := error
  cases data with
  | none =>
    have keys : ["code", "message"].Pairwise (· < ·) := by decide
    exact reread_members keys rfl
  | some data =>
    have keys : ["code", "data", "message"].Pairwise (· < ·) := by decide
    exact reread_members keys rfl

/-- The JSON of a message lists its members in order, so that each is read by itself. -/
theorem reread_toJson (message : Message) : message.toJson.reread = message.reread.toJson := by
  cases message with
  | request request =>
    obtain ⟨id, method, params⟩ := request
    cases params with
    | none =>
      have keys : ["id", "jsonrpc", "method"].Pairwise (· < ·) := by decide
      exact reread_members keys (by simp [paramsMember, version, Json.reread, Id.reread_toJson])
    | some params =>
      have keys : ["id", "jsonrpc", "method", "params"].Pairwise (· < ·) := by decide
      exact reread_members keys (by
        simp [paramsMember, version, Json.reread, Id.reread_toJson, Params.reread_toJson])
  | response response =>
    obtain ⟨id, result⟩ := response
    cases result with
    | ok result =>
      have keys : ["id", "jsonrpc", "result"].Pairwise (· < ·) := by decide
      exact reread_members keys (by simp [version, Json.reread, reread_nullable])
    | error error =>
      have keys : ["error", "id", "jsonrpc"].Pairwise (· < ·) := by decide
      exact reread_members keys (by simp [version, Json.reread, reread_nullable, reread_errorJson])
  | notification notification =>
    obtain ⟨method, params⟩ := notification
    cases params with
    | none =>
      have keys : ["jsonrpc", "method"].Pairwise (· < ·) := by decide
      exact reread_members keys (by simp [paramsMember, version, Json.reread])
    | some params =>
      have keys : ["jsonrpc", "method", "params"].Pairwise (· < ·) := by decide
      exact reread_members keys (by
        simp [paramsMember, version, Json.reread, Params.reread_toJson])

theorem decode_encode_eq (message : Message) :
    decode message.encode =
      if message.toJson.depth ≤ Json.depthLimit then .ok message.reread
      else .error (.invalidJson .tooDeep) := by
  rw [decode, encode, parse_encode_eq, reread_toJson]
  by_cases shallow : message.toJson.depth ≤ Json.depthLimit
  · rw [if_pos shallow, if_pos shallow]
    exact ofJson_toJson message.reread
  · rw [if_neg shallow, if_neg shallow]

end Message

end LanguageClient
