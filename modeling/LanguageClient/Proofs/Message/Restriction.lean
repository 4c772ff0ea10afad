import LanguageClient.Proofs.Message.Discrimination
import LanguageClient.Proofs.Message.RoundTrip

set_option autoImplicit false

namespace LanguageClient

theorem Json.Whole.eq_ofInt64 {value : Json} {number : Int64} (whole : value.Whole number) :
    value = .ofInt64 number := by
  obtain ⟨⟨held, lower, upper⟩, rfl, rfl⟩ := whole
  rfl

namespace Message

inductive Shape where
  | request
  | notification
  | success
  | failure
deriving DecidableEq

def shape : Message → Shape
  | .request _ => .request
  | .notification _ => .notification
  | .response ⟨_, .ok _⟩ => .success
  | .response ⟨_, .error _⟩ => .failure

def Shape.keys : Shape → List String
  | request => ["id", "method", "params"]
  | notification => ["method", "params"]
  | success => ["id", "result"]
  | failure => ["error", "id"]

def errorKeys : List String := ["code", "data", "message"]

/-- The members that a value has under some keys. -/
def restrict (keys : List String) (value : Json) : Members :=
  keys.filterMap fun key => (value.member? key).map (key, ·)

/-- What is kept of a member: an error is restricted in turn. -/
def keep : String × Json → String × Json
  | ("error", error) => ("error", .object (restrict errorKeys error))
  | member => member

/-- The members of a value that a shape recognises. -/
def Shape.recognised (shape : Shape) (value : Json) : Members :=
  (restrict shape.keys value).map keep

/-- The members that a message is written with, besides the version. -/
def parts : Message → Members
  | .request ⟨id, method, params⟩ =>
    [("id", id.toJson), ("method", .string method)] ++ paramsMember params
  | .notification ⟨method, params⟩ => ("method", .string method) :: paramsMember params
  | .response ⟨id, .ok result⟩ => [("id", id.elim .null Id.toJson), ("result", result)]
  | .response ⟨id, .error error⟩ =>
    [("error", error.toJson), ("id", id.elim .null Id.toJson)]

theorem toJson_eq_ofMembers (message : Message) :
    message.toJson = Json.ofMembers (version :: message.parts) := by
  cases message with
  | request request =>
    obtain ⟨id, method, params⟩ := request
    cases params <;> rfl
  | notification notification =>
    obtain ⟨method, params⟩ := notification
    cases params <;> rfl
  | response response =>
    obtain ⟨id, result⟩ := response
    cases result <;> rfl

/-! ### What the rules keep -/

theorem IdOf.eq_toJson {value : Json} {id : Option Id} (isId : IdOf value id) :
    value = id.elim .null Id.toJson := by
  cases isId with
  | null => rfl
  | text value => rfl
  | number whole => exact whole.eq_ofInt64

variable {members : Members}

theorem TextOf.lookup_eq {field text : String} (isText : TextOf members field (.ok text)) :
    members.lookup field = some (.string text) := by
  cases isText with
  | text present => exact present

theorem ParamsOf.lookup_eq {params : Option Params} (given : ParamsOf members (.ok params)) :
    members.lookup "params" = params.map Params.toJson := by
  cases given with
  | absent absent => exact absent
  | object present => exact present
  | array present => exact present

theorem restrict_cons {key : String} {held : Json} (keys : List String)
    (found : members.lookup key = some held) :
    restrict (key :: keys) (.object members) = (key, held) :: restrict keys (.object members) := by
  simp only [restrict, List.filterMap_cons, Json.member?, found, Option.map_some]

theorem restrict_params {params : Option Params} (given : ParamsOf members (.ok params)) :
    restrict ["params"] (.object members) = paramsMember params := by
  cases params <;> simp [restrict, Json.member?, given.lookup_eq, paramsMember]

theorem restrict_call {method : String} {params : Option Params}
    (call : CallOf members (.ok (method, params))) :
    restrict ["method", "params"] (.object members) =
      ("method", .string method) :: paramsMember params := by
  cases call with
  | call named given => rw [restrict_cons _ named.lookup_eq, restrict_params given]

theorem toJson_of_errorOf {value : Json} {error : ResponseError}
    (isError : ErrorOf value (.ok error)) :
    error.toJson = .object (restrict errorKeys value) := by
  cases isError with
  | @error members code _ _ present whole text =>
    cases data : members.lookup "data" <;>
      simp [ResponseError.toJson, restrict, errorKeys, Json.member?, present, whole.eq_ofInt64,
        text.lookup_eq, data]

theorem discriminates_of_ofJson {value : Json} {message : Message}
    (accepted : ofJson value = .ok message) : Discriminates value (.ok message) := by
  cases value with
  | object members => exact accepted ▸ discriminates_ofMembers members
  | null => cases accepted
  | bool _ => cases accepted
  | number _ => cases accepted
  | string _ => cases accepted
  | array _ => cases accepted

theorem map_keep_paramsMember (params : Option Params) :
    (paramsMember params).map keep = paramsMember params := by
  cases params <;> rfl

/-- A message is made of what its shape recognises in the value that it is read from. -/
theorem recognised_of_discriminates {value : Json} {message : Message}
    (rule : Discriminates value (.ok message)) :
    message.shape.recognised value = message.parts := by
  cases rule with
  | @notification members method params noId call =>
    change (restrict ["method", "params"] (.object members)).map keep = _
    rw [restrict_call call, List.map_cons, map_keep_paramsMember]
    rfl
  | @request members _ id method params hasId isId noResult noError call =>
    change (restrict ["id", "method", "params"] (.object members)).map keep = _
    rw [restrict_cons _ hasId, restrict_call call, List.map_cons, List.map_cons,
      map_keep_paramsMember, isId.eq_toJson]
    rfl
  | @success members _ result id hasId isId hasResult noMethod =>
    change (restrict ["id", "result"] (.object members)).map keep = _
    rw [restrict_cons _ hasId, restrict_cons _ hasResult, isId.eq_toJson]
    rfl
  | @failure members _ error id failure hasId isId noResult hasError noMethod isError =>
    change (restrict ["error", "id"] (.object members)).map keep = _
    rw [restrict_cons _ hasError, restrict_cons _ hasId, isId.eq_toJson, parts,
      toJson_of_errorOf isError]
    rfl

theorem recognised_of_ofJson {value : Json} {message : Message}
    (accepted : ofJson value = .ok message) : message.shape.recognised value = message.parts :=
  recognised_of_discriminates (discriminates_of_ofJson accepted)

/-- Messages are equal as soon as they have the same shape and are made of the same parts. -/
theorem eq_iff_parts {message other : Message} :
    message = other ↔ message.shape = other.shape ∧ message.parts = other.parts := by
  constructor
  · intro same
    rw [same]
    exact ⟨rfl, rfl⟩
  · intro both
    have written : message.toJson = other.toJson := by
      rw [toJson_eq_ofMembers, toJson_eq_ofMembers, both.2]
    have read := ofJson_toJson message
    rw [written, ofJson_toJson] at read
    exact (Except.ok.inj read).symm

/-- No message is written with a result and an error, or with a method beside one of them. -/
theorem member?_toJson (message : Message) :
    (message.toJson.member? "result" = none ∨ message.toJson.member? "error" = none) ∧
      (message.toJson.member? "method" = none ∨
        message.toJson.member? "result" = none ∧ message.toJson.member? "error" = none) := by
  cases message with
  | request request =>
    obtain ⟨id, method, params⟩ := request
    cases params <;> simp [toJson, Json.member?, paramsMember, version, List.lookup_cons]
  | notification notification =>
    obtain ⟨method, params⟩ := notification
    cases params <;> simp [toJson, Json.member?, paramsMember, version, List.lookup_cons]
  | response response =>
    obtain ⟨id, result⟩ := response
    cases result <;> simp [toJson, Json.member?, version, List.lookup_cons]

/-- A message that is read from a value is written with the version and with what its shape
recognises in the value, as it stands there, and so it is read again. What is recognised is all that
counts: values of one shape are the same message exactly if it is equal. -/
theorem toJson_eq_recognised {value : Json} {message : Message}
    (accepted : ofJson value = .ok message) :
    message.toJson = Json.ofMembers (version :: message.shape.recognised value) ∧
      ofJson message.toJson = .ok message ∧
      (∀ other again, ofJson other = .ok again → (again = message ↔ again.shape = message.shape ∧
        again.shape.recognised other = message.shape.recognised value)) ∧
      ∀ written : Message,
        (written.toJson.member? "result" = none ∨ written.toJson.member? "error" = none) ∧
          (written.toJson.member? "method" = none ∨
            written.toJson.member? "result" = none ∧ written.toJson.member? "error" = none) := by
  have parts := recognised_of_ofJson accepted
  refine ⟨?_, ofJson_toJson message, fun other again acceptedAgain => ?_, member?_toJson⟩
  · rw [parts]
    exact toJson_eq_ofMembers message
  · rw [parts, recognised_of_ofJson acceptedAgain]
    exact eq_iff_parts

/-- A failure whose data are null, with members beside it and in its error that are not kept. It is
another message than the failure without data. -/
theorem toJson_of_null_data_and_further_members :
    let error : Members := [("code", .ofInt64 (-1)), ("data", .null), ("message", .string "e")]
    let value : Json := .object [("error", .object (("Code", .bool true) :: error)),
      ("id", .ofInt64 7), ("jsonrpc", .string "1.0"), ("params", .bool true)]
    let other : Json := .object
      [("error", .object [("code", .ofInt64 (-1)), ("message", .string "e")]), ("id", .ofInt64 7)]
    let message : Message := .response ⟨some (.number 7), .error ⟨-1, "e", some .null⟩⟩
    ofJson value = .ok message ∧
      message.toJson = .object [("error", .object error), ("id", .ofInt64 7), version] ∧
      ofJson other ≠ .ok message := by
  intro error value other message
  have accepted : ofJson value = .ok message := by rfl
  obtain ⟨written, -, same, -⟩ := toJson_eq_recognised accepted
  refine ⟨accepted, written.trans (by rfl), fun acceptedOther => ?_⟩
  have recognised := ((same other message acceptedOther).mp rfl).2
  have differ : message.shape.recognised other ≠ message.shape.recognised value := by decide
  exact differ recognised

end Message

end LanguageClient
