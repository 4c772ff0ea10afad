import LanguageClient.Message.Json
import LanguageClient.Proofs.Json.Canonical
import LanguageClient.Proofs.Json.RoundTrip

set_option autoImplicit false

namespace LanguageClient

theorem Json.toInt64?_ofInt64 (value : Int64) : (Json.ofInt64 value).toInt64? = some value := by
  have small : value.toInt < 0x8000000000000000 := by
    have := value.toInt_lt
    omega
  simp only [ofInt64, toInt64?, Integer.toInt64?, Integer.ofInt64, small, if_true,
    Int64.ofInt_toInt]

namespace Message

theorem readId_toJson (id : Id) : readId id.toJson = .ok (some id) := by
  cases id with
  | text value => rfl
  | number value =>
    have same := Json.toInt64?_ofInt64 value
    simp only [Id.toJson, Json.ofInt64, readId] at same ⊢
    rw [same]

theorem readId_nullable (id : Option Id) : readId (id.elim .null Id.toJson) = .ok id := by
  cases id with
  | none => rfl
  | some id => exact readId_toJson id

theorem ofJson_paramsJson (params : Params) : Params.ofJson params.toJson = .ok params := by
  cases params <;> rfl

theorem ofJson_errorJson (error : ResponseError) :
    ResponseError.ofJson error.toJson = .ok error := by
  obtain ⟨code, message, data⟩ := error
  have same := Json.toInt64?_ofInt64 code
  cases data <;>
    simp [ResponseError.toJson, ResponseError.ofJson, List.lookup_cons, readText, same, bind,
      Except.bind, pure, Except.pure]

theorem ofJson_toJson (message : Message) : ofJson message.toJson = .ok message := by
  cases message with
  | request request =>
    obtain ⟨id, method, params⟩ := request
    cases params <;>
      simp [toJson, ofJson, ofMembers, version, paramsMember, List.lookup_cons, readId_toJson,
        readText, readParams, ofJson_paramsJson, Except.map, bind, Except.bind, pure, Except.pure]
  | response response =>
    obtain ⟨id, result⟩ := response
    cases result <;>
      simp [toJson, ofJson, ofMembers, version, List.lookup_cons, readId_nullable, ofJson_errorJson,
        bind, Except.bind, pure, Except.pure]
  | notification notification =>
    obtain ⟨method, params⟩ := notification
    cases params <;>
      simp [toJson, ofJson, ofMembers, version, paramsMember, List.lookup_cons, readText,
        readParams, ofJson_paramsJson, Except.map, bind, Except.bind, pure, Except.pure]

/-- The values that a message carries as they are. -/
def carried : Message → List Json
  | .request ⟨_, _, params⟩ | .notification ⟨_, params⟩ => params.toList.map Params.toJson
  | .response ⟨_, .ok result⟩ => [result]
  | .response ⟨_, .error error⟩ => error.data.toList

open Json

/-! ### What a message carries -/

theorem canonical_of_lookup {members : Members} {key : String} {value : Json}
    (canonical : ∀ member ∈ members, member.2.Canonical)
    (found : members.lookup key = some value) : value.Canonical := by
  induction members with
  | nil => cases found
  | cons member rest ih =>
    obtain ⟨first, later⟩ := List.forall_mem_cons.mp canonical
    rw [List.lookup_cons] at found
    split at found
    · cases found
      exact first
    · exact ih later found

theorem canonical_of_paramsJson {value : Json} {params : Params} (canonical : value.Canonical)
    (read : Params.ofJson value = .ok params) : params.toJson.Canonical := by
  unfold Params.ofJson at read
  split at read
  · cases read
    exact canonical
  · cases read
    exact canonical
  · cases read

theorem canonical_of_readParams {members : Members} {params : Option Params}
    (canonical : ∀ member ∈ members, member.2.Canonical)
    (read : readParams members = .ok params) :
    ∀ value ∈ params.toList.map Params.toJson, value.Canonical := by
  unfold readParams at read
  split at read
  · cases read
    exact List.forall_mem_nil _
  · rename_i value found
    obtain ⟨inner, same, rfl⟩ := Reader.exists_of_map read
    exact List.forall_mem_singleton.mpr
      (canonical_of_paramsJson (canonical_of_lookup canonical found) same)

theorem canonical_of_errorJson {value : Json} {error : ResponseError} (canonical : value.Canonical)
    (read : ResponseError.ofJson value = .ok error) :
    ∀ data ∈ error.data.toList, data.Canonical := by
  unfold ResponseError.ofJson at read
  split at read
  · rename_i members
    dsimp only at read
    have kept : error.data = members.lookup "data" := by
      split at read
      · cases read
      · split at read
        · obtain ⟨code, -, read⟩ := Reader.exists_of_bind read
          obtain ⟨text, -, read⟩ := Reader.exists_of_bind read
          cases read
          rfl
        · cases read
    intro data mem
    rw [kept, Option.mem_toList] at mem
    exact canonical_of_lookup (canonicalMembers_iff.mp canonical.2) mem
  · cases read

/-- What a message carries that is read from JSON is part of that JSON. -/
theorem canonical_of_ofJson {value : Json} {message : Message} (canonical : value.Canonical)
    (read : ofJson value = .ok message) : ∀ inner ∈ message.carried, inner.Canonical := by
  unfold ofJson at read
  split at read
  · rename_i members
    have parts := canonicalMembers_iff.mp canonical.2
    unfold ofMembers at read
    split at read
    · obtain ⟨method, -, read⟩ := Reader.exists_of_bind read
      obtain ⟨params, found, read⟩ := Reader.exists_of_bind read
      cases read
      exact canonical_of_readParams parts found
    · obtain ⟨id, -, read⟩ := Reader.exists_of_bind read
      split at read
      · rename_i result _ found
        split at read
        · cases read
        · cases read
          exact List.forall_mem_singleton.mpr (canonical_of_lookup parts found)
      · rename_i error _ found
        split at read
        · cases read
        · obtain ⟨error, same, read⟩ := Reader.exists_of_bind read
          cases read
          exact canonical_of_errorJson (canonical_of_lookup parts found) same
      · split at read
        · cases read
        · obtain ⟨method, -, read⟩ := Reader.exists_of_bind read
          obtain ⟨params, found, read⟩ := Reader.exists_of_bind read
          cases read
          exact canonical_of_readParams parts found
  · cases read

theorem canonical_of_decode {input : Bytes} {message : Message}
    (decoded : decode input = .ok message) : ∀ value ∈ message.carried, value.Canonical := by
  unfold decode at decoded
  split at decoded
  · rename_i value found
    exact canonical_of_ofJson (canonical_of_parse found) decoded
  · cases decoded

theorem restorable_id (id : Id) : id.toJson.Restorable := by
  cases id with
  | text value => exact restorable_string value
  | number value => exact restorable_ofInt64 value

theorem restorable_error {error : ResponseError}
    (restorable : ∀ data ∈ error.data, data.Restorable) : error.toJson.Restorable := by
  obtain ⟨code, message, data⟩ := error
  cases data with
  | none =>
    have keys : ["code", "message"].Pairwise (· < ·) := by decide
    exact restorable_object keys (by simp [restorable_string, restorable_ofInt64])
  | some data =>
    have keys : ["code", "data", "message"].Pairwise (· < ·) := by decide
    exact restorable_object keys
      (by simp [restorable_string, restorable_ofInt64, restorable data rfl])

/-- The members of every message stand in order, so it comes back if what it carries does. -/
theorem restorable_toJson {message : Message}
    (restorable : ∀ value ∈ message.carried, value.Restorable) : message.toJson.Restorable := by
  cases message with
  | request request =>
    obtain ⟨id, method, params⟩ := request
    cases params with
    | none =>
      have keys : ["id", "jsonrpc", "method"].Pairwise (· < ·) := by decide
      exact restorable_object keys
        (by simp [version, paramsMember, restorable_string, restorable_id])
    | some params =>
      have keys : ["id", "jsonrpc", "method", "params"].Pairwise (· < ·) := by decide
      have inner : params.toJson.Restorable := restorable _ (List.mem_singleton_self _)
      exact restorable_object keys
        (by simp [version, paramsMember, restorable_string, restorable_id, inner])
  | response response =>
    obtain ⟨id, result⟩ := response
    have answered : (id.elim .null Id.toJson).Restorable := by
      cases id with
      | none => exact restorable_null
      | some id => exact restorable_id id
    cases result with
    | ok result =>
      have keys : ["id", "jsonrpc", "result"].Pairwise (· < ·) := by decide
      have inner : result.Restorable := restorable _ (List.mem_singleton_self _)
      exact restorable_object keys (by simp [version, restorable_string, answered, inner])
    | error error =>
      have inner : error.toJson.Restorable :=
        restorable_error fun data mem => restorable data (Option.mem_toList.mpr mem)
      have keys : ["error", "id", "jsonrpc"].Pairwise (· < ·) := by decide
      exact restorable_object keys (by simp [version, restorable_string, answered, inner])
  | notification notification =>
    obtain ⟨method, params⟩ := notification
    cases params with
    | none =>
      have keys : ["jsonrpc", "method"].Pairwise (· < ·) := by decide
      exact restorable_object keys (by simp [version, paramsMember, restorable_string])
    | some params =>
      have keys : ["jsonrpc", "method", "params"].Pairwise (· < ·) := by decide
      have inner : params.toJson.Restorable := restorable _ (List.mem_singleton_self _)
      exact restorable_object keys (by simp [version, paramsMember, restorable_string, inner])

/-! ### Messages and their bytes -/

theorem decode_encode {message : Message}
    (restorable : ∀ value ∈ message.carried, value.Restorable) :
    decode message.encode =
      if message.toJson.depth ≤ Json.depthLimit then .ok message
      else .error (.invalidJson .tooDeep) := by
  rw [decode, encode, Json.parse_encode (restorable_toJson restorable)]
  by_cases shallow : message.toJson.depth ≤ Json.depthLimit
  · rw [if_pos shallow, if_pos shallow]
    exact ofJson_toJson message
  · rw [if_neg shallow, if_neg shallow]

/-- So are the bytes of a message that was read itself, of which only the doubles can be lost. -/
theorem decode_encode_of_decode {input : Bytes} {message : Message}
    (decoded : decode input = .ok message)
    (exact : ∀ value ∈ message.carried, ∀ real ∈ value.doubles, ReadBack real) :
    decode message.encode =
      if message.toJson.depth ≤ Json.depthLimit then .ok message
      else .error (.invalidJson .tooDeep) :=
  decode_encode fun value mem => ⟨canonical_of_decode decoded value mem, exact value mem⟩

/-- A message is what its JSON says. Its bytes say it too exactly up to 127 levels of arrays and
objects; with more of them they are refused for their depth. -/
theorem decode_encode_iff {message : Message}
    (restorable : ∀ value ∈ message.carried, value.Restorable) :
    ofJson message.toJson = .ok message ∧
      (decode message.encode = .ok message ↔ message.toJson.depth ≤ 127) ∧
      (127 < message.toJson.depth →
        decode message.encode = .error (.invalidJson .tooDeep)) := by
  have limit : Json.depthLimit = 127 := rfl
  rw [decode_encode restorable, limit]
  refine ⟨ofJson_toJson message, ?_, fun deep => if_neg (Nat.not_le.mpr deep)⟩
  by_cases shallow : message.toJson.depth ≤ 127
  · simp only [shallow, if_true]
  · simp only [shallow, if_false, reduceCtorEq]

def brackets : Nat → Json
  | 0 => .null
  | levels + 1 => .array [brackets levels]

theorem restorable_brackets (levels : Nat) : (brackets levels).Restorable := by
  induction levels with
  | zero => exact restorable_null
  | succ levels ih => exact restorable_array_iff.mpr (List.forall_mem_singleton.mpr ih)

theorem depth_brackets (levels : Nat) : (brackets levels).depth = levels := by
  induction levels with
  | zero => rfl
  | succ levels ih => simp only [brackets, depth, depthOfElements, ih, Nat.max_zero]

/-- An answer whose data hold a half and texts with escapes, and params one level within the limit
and one beyond it. -/
theorem decode_encode_at_limit :
    let data : Json := .array [.number (.double ⟨false, 0x3FE <<< 52, by decide⟩),
      .object [("", .null), ("\r\n\r\n", .string "Content-Length: \"\u0001é😀")]]
    let failure : Message := .response ⟨none, .error ⟨Int64.minValue, "", some data⟩⟩
    let within : Message := .request ⟨.number Int64.maxValue, "m", some (.array [brackets 125])⟩
    let beyond : Message := .notification ⟨"m", some (.array [brackets 126])⟩
    Message.decode failure.encode = .ok failure ∧ Message.decode within.encode = .ok within ∧
      Message.decode beyond.encode = .error (.invalidJson .tooDeep) := by
  intro data failure within beyond
  have half : (Json.number (.double ⟨false, 0x3FE <<< 52, by decide⟩)).Restorable :=
    ⟨trivial, List.forall_mem_singleton.mpr (by unfold ReadBack; decide +kernel)⟩
  have texts : (Json.object
      [("", .null), ("\r\n\r\n", .string "Content-Length: \"\u0001é😀")]).Restorable := by
    have keys : ["", "\r\n\r\n"].Pairwise (· < ·) := by decide
    exact restorable_object keys (by simp [restorable_string, restorable_null])
  have carried : data.Restorable := by
    rw [restorable_array_iff]
    simp only [List.forall_mem_cons]
    exact ⟨half, texts, List.forall_mem_nil _⟩
  refine ⟨(decode_encode_iff ?_).2.1.mpr ?_, (decode_encode_iff ?_).2.1.mpr ?_,
    (decode_encode_iff ?_).2.2 ?_⟩
  · exact List.forall_mem_singleton.mpr carried
  · decide
  · exact List.forall_mem_singleton.mpr (restorable_brackets 126)
  · simp [within, toJson, paramsMember, version, Params.toJson, Id.toJson, ofInt64, depth,
      depthOfMembers, depthOfElements, depth_brackets]
  · exact List.forall_mem_singleton.mpr (restorable_brackets 127)
  · simp [beyond, toJson, paramsMember, version, Params.toJson, depth, depthOfMembers,
      depthOfElements, depth_brackets]

end Message

end LanguageClient
