import LanguageClient.Message.Json

set_option autoImplicit false

/-!
What message a JSON value is, as rules over its members. The rules are stated without the reader,
and the reader follows them: each value falls under exactly the rule that gives its outcome, which
is a message or the first thing that is wrong with it. Members that no rule names make no
difference.
-/

namespace LanguageClient

namespace Json

/-- The value is a whole number of 64 bits with a sign. A number with a fraction or an exponent is
none, however it is written. -/
def Whole (value : Json) (number : Int64) : Prop :=
  ∃ held : Integer, value = .number (.integer held) ∧ held.value = number.toInt

/-- The value is no whole number, or one that is too large. None is too small to be kept. -/
def Unwhole (value : Json) : Prop :=
  ∀ held : Integer, value = .number (.integer held) → 0x8000000000000000 ≤ held.value

theorem toInt64?_eq_some_iff {value : Json} {number : Int64} :
    value.toInt64? = some number ↔ value.Whole number := by
  constructor
  · intro read
    unfold toInt64? at read
    split at read
    · rename_i held
      unfold Integer.toInt64? at read
      split at read
      · rename_i small
        rw [← Option.some.inj read]
        exact ⟨held, rfl, (Int64.toInt_ofInt_of_le held.lower small).symm⟩
      · cases read
    · cases read
  · rintro ⟨held, rfl, same⟩
    have small : held.value < 0x8000000000000000 := by
      have := number.toInt_lt
      omega
    rw [toInt64?, Integer.toInt64?, if_pos small, same, Int64.ofInt_toInt]

theorem toInt64?_eq_none_iff {value : Json} : value.toInt64? = none ↔ value.Unwhole := by
  unfold toInt64? Unwhole
  split
  · rename_i held
    unfold Integer.toInt64?
    constructor
    · intro missing other same
      cases same
      refine Int.not_lt.mp fun small => ?_
      rw [if_pos small] at missing
      cases missing
    · intro large
      exact if_neg (Int.not_lt.mpr (large held rfl))
  · rename_i other
    exact ⟨fun _ held same => absurd same (other held), fun _ => rfl⟩

end Json

namespace Message

/-! ### The rules -/

inductive TextOf (members : Members) (field : String) : Except ProtocolError String → Prop where
  | missing (absent : members.lookup field = none) :
      TextOf members field (.error (.missingField field))
  | text {value : String} (present : members.lookup field = some (.string value)) :
      TextOf members field (.ok value)
  | other {value : Json} (present : members.lookup field = some value)
      (noText : ∀ text, value ≠ .string text) :
      TextOf members field (.error (.invalidField field "a string"))

inductive ParamsOf (members : Members) : Except ProtocolError (Option Params) → Prop where
  | absent (absent : members.lookup "params" = none) : ParamsOf members (.ok none)
  | object {inner : Members} (present : members.lookup "params" = some (.object inner)) :
      ParamsOf members (.ok (some (.object inner)))
  | array {elements : List Json} (present : members.lookup "params" = some (.array elements)) :
      ParamsOf members (.ok (some (.array elements)))
  | other {value : Json} (present : members.lookup "params" = some value)
      (noObject : ∀ inner, value ≠ .object inner) (noArray : ∀ elements, value ≠ .array elements) :
      ParamsOf members (.error (.invalidField "params" "an object or an array"))

/-- A method and its params. What is wrong with the method is reported first. -/
inductive CallOf (members : Members) : Except ProtocolError (String × Option Params) → Prop where
  | call {method : String} {params : Option Params} (named : TextOf members "method" (.ok method))
      (given : ParamsOf members (.ok params)) : CallOf members (.ok (method, params))
  | unnamed {cause : ProtocolError} (unnamed : TextOf members "method" (.error cause)) :
      CallOf members (.error cause)
  | ungiven {method : String} {cause : ProtocolError}
      (named : TextOf members "method" (.ok method)) (ungiven : ParamsOf members (.error cause)) :
      CallOf members (.error cause)

/-- The values that are ids; null is the id of a response to what could not be read. -/
inductive IdOf : Json → Option Id → Prop where
  | null : IdOf .null none
  | text (value : String) : IdOf (.string value) (some (.text value))
  | number {value : Json} {number : Int64} (whole : value.Whole number) :
      IdOf value (some (.number number))

/-- The error of a response: an object with a code and a message, looked at in this order. -/
inductive ErrorOf : Json → Except ProtocolError ResponseError → Prop where
  | other {value : Json} (noObject : ∀ members, value ≠ .object members) :
      ErrorOf value (.error (.invalidField "error" "an object"))
  | noCode {members : Members} (absent : members.lookup "code" = none) :
      ErrorOf (.object members) (.error (.missingField "code"))
  | otherCode {members : Members} {value : Json} (present : members.lookup "code" = some value)
      (unwhole : value.Unwhole) :
      ErrorOf (.object members) (.error (.invalidField "code" "an integer"))
  | noMessage {members : Members} {value : Json} {code : Int64} {cause : ProtocolError}
      (present : members.lookup "code" = some value) (whole : value.Whole code)
      (refused : TextOf members "message" (.error cause)) : ErrorOf (.object members) (.error cause)
  | error {members : Members} {value : Json} {code : Int64} {message : String}
      (present : members.lookup "code" = some value) (whole : value.Whole code)
      (text : TextOf members "message" (.ok message)) :
      ErrorOf (.object members) (.ok ⟨code, message, members.lookup "data"⟩)

/-- What a value is as a message. -/
inductive Discriminates : Json → Except ProtocolError Message → Prop where
  | noObject {value : Json} (noObject : ∀ members, value ≠ .object members) :
      Discriminates value (.error .notAnObject)
  | notification {members : Members} {method : String} {params : Option Params}
      (noId : members.lookup "id" = none) (call : CallOf members (.ok (method, params))) :
      Discriminates (.object members) (.ok (.notification ⟨method, params⟩))
  | noNotification {members : Members} {cause : ProtocolError}
      (noId : members.lookup "id" = none) (call : CallOf members (.error cause)) :
      Discriminates (.object members) (.error cause)
  | invalidId {members : Members} {idValue : Json} (hasId : members.lookup "id" = some idValue)
      (noId : ∀ id, ¬ IdOf idValue id) : Discriminates (.object members) (.error .invalidId)
  | ambiguousResult {members : Members} {idValue result method : Json} {id : Option Id}
      (hasId : members.lookup "id" = some idValue) (isId : IdOf idValue id)
      (hasResult : members.lookup "result" = some result)
      (hasMethod : members.lookup "method" = some method) :
      Discriminates (.object members) (.error (.ambiguousKind "result"))
  | success {members : Members} {idValue result : Json} {id : Option Id}
      (hasId : members.lookup "id" = some idValue) (isId : IdOf idValue id)
      (hasResult : members.lookup "result" = some result)
      (noMethod : members.lookup "method" = none) :
      Discriminates (.object members) (.ok (.response ⟨id, .ok result⟩))
  | ambiguousError {members : Members} {idValue error method : Json} {id : Option Id}
      (hasId : members.lookup "id" = some idValue) (isId : IdOf idValue id)
      (noResult : members.lookup "result" = none) (hasError : members.lookup "error" = some error)
      (hasMethod : members.lookup "method" = some method) :
      Discriminates (.object members) (.error (.ambiguousKind "error"))
  | failure {members : Members} {idValue error : Json} {id : Option Id} {failure : ResponseError}
      (hasId : members.lookup "id" = some idValue) (isId : IdOf idValue id)
      (noResult : members.lookup "result" = none) (hasError : members.lookup "error" = some error)
      (noMethod : members.lookup "method" = none) (isError : ErrorOf error (.ok failure)) :
      Discriminates (.object members) (.ok (.response ⟨id, .error failure⟩))
  | noFailure {members : Members} {idValue error : Json} {id : Option Id} {cause : ProtocolError}
      (hasId : members.lookup "id" = some idValue) (isId : IdOf idValue id)
      (noResult : members.lookup "result" = none) (hasError : members.lookup "error" = some error)
      (noMethod : members.lookup "method" = none) (noError : ErrorOf error (.error cause)) :
      Discriminates (.object members) (.error cause)
  | nullRequest {members : Members} {idValue : Json} (hasId : members.lookup "id" = some idValue)
      (isNull : IdOf idValue none) (noResult : members.lookup "result" = none)
      (noError : members.lookup "error" = none) :
      Discriminates (.object members) (.error .nullIdRequest)
  | request {members : Members} {idValue : Json} {id : Id} {method : String}
      {params : Option Params} (hasId : members.lookup "id" = some idValue)
      (isId : IdOf idValue (some id)) (noResult : members.lookup "result" = none)
      (noError : members.lookup "error" = none) (call : CallOf members (.ok (method, params))) :
      Discriminates (.object members) (.ok (.request ⟨id, method, params⟩))
  | noRequest {members : Members} {idValue : Json} {id : Id} {cause : ProtocolError}
      (hasId : members.lookup "id" = some idValue) (isId : IdOf idValue (some id))
      (noResult : members.lookup "result" = none) (noError : members.lookup "error" = none)
      (call : CallOf members (.error cause)) : Discriminates (.object members) (.error cause)

/-! ### The reader follows the rules -/

variable {members : Members}

theorem textOf_readText (field : String) : TextOf members field (readText members field) := by
  unfold readText
  split
  · rename_i absent
    exact .missing absent
  · rename_i present
    exact .text present
  · rename_i value noText present
    exact .other present noText

theorem TextOf.eq_readText {field : String} {outcome : Except ProtocolError String}
    (rule : TextOf members field outcome) : readText members field = outcome := by
  unfold readText
  cases rule with
  | missing absent => rw [absent]
  | text present => rw [present]
  | @other value present noText =>
    rw [present]
    cases value with
    | string text => exact absurd rfl (noText text)
    | null => rfl
    | bool _ => rfl
    | number _ => rfl
    | array _ => rfl
    | object _ => rfl

theorem paramsOf_readParams : ParamsOf members (readParams members) := by
  unfold readParams
  split
  · rename_i absent
    exact .absent absent
  · rename_i value present
    unfold Params.ofJson
    split
    · exact .object present
    · exact .array present
    · rename_i noObject noArray
      exact .other present noObject noArray

theorem ParamsOf.eq_readParams {outcome : Except ProtocolError (Option Params)}
    (rule : ParamsOf members outcome) : readParams members = outcome := by
  unfold readParams
  cases rule with
  | absent absent => rw [absent]
  | object present =>
    rw [present]
    rfl
  | array present =>
    rw [present]
    rfl
  | @other value present noObject noArray =>
    rw [present]
    cases value with
    | object inner => exact absurd rfl (noObject inner)
    | array elements => exact absurd rfl (noArray elements)
    | null => rfl
    | bool _ => rfl
    | number _ => rfl
    | string _ => rfl

def readCall {α : Type} (members : Members) (make : String → Option Params → α) :
    Except ProtocolError α := do
  return make (← readText members "method") (← readParams members)

theorem callOf_readCall : CallOf members (readCall members Prod.mk) := by
  have method := @textOf_readText members "method"
  have params := @paramsOf_readParams members
  unfold readCall
  generalize readText members "method" = named at method ⊢
  generalize readParams members = given at params ⊢
  cases named with
  | error cause => exact .unnamed method
  | ok name =>
    cases given with
    | error cause => exact .ungiven method params
    | ok given => exact .call method params

theorem CallOf.eq_readCall {α : Type} {outcome : Except ProtocolError (String × Option Params)}
    (rule : CallOf members outcome) (make : String → Option Params → α) :
    readCall members make = outcome.map fun (method, params) => make method params := by
  unfold readCall
  cases rule with
  | call named given =>
    rw [named.eq_readText, given.eq_readParams]
    rfl
  | unnamed unnamed =>
    rw [unnamed.eq_readText]
    rfl
  | ungiven named ungiven =>
    rw [named.eq_readText, ungiven.eq_readParams]
    rfl

theorem readId_eq_ok_iff {value : Json} {id : Option Id} :
    readId value = .ok id ↔ IdOf value id := by
  constructor
  · intro read
    unfold readId at read
    split at read
    · cases read
      exact .null
    · cases read
      exact .text _
    · split at read
      · rename_i number found
        cases read
        exact .number (Json.toInt64?_eq_some_iff.mp found)
      · cases read
  · intro rule
    cases rule with
    | null => rfl
    | text value => rfl
    | number whole =>
      have found := Json.toInt64?_eq_some_iff.mpr whole
      obtain ⟨held, rfl, -⟩ := whole
      simp only [readId, found]

/-- An id is refused in one way only. -/
theorem readId_eq_error_iff {value : Json} :
    readId value = .error .invalidId ↔ ∀ id, ¬ IdOf value id := by
  cases read : readId value with
  | ok id => exact ⟨nofun, fun refused => absurd (readId_eq_ok_iff.mp read) (refused id)⟩
  | error cause =>
    have only : cause = .invalidId := by
      unfold readId at read
      split at read
      · cases read
      · cases read
      · split at read
        · cases read
        · exact (Except.error.inj read).symm
    rw [only]
    refine ⟨fun _ id isId => ?_, fun _ => rfl⟩
    rw [readId_eq_ok_iff.mpr isId] at read
    cases read

theorem errorOf_ofJson (value : Json) : ErrorOf value (ResponseError.ofJson value) := by
  unfold ResponseError.ofJson
  split
  · rename_i members
    cases code : members.lookup "code" with
    | none => exact .noCode code
    | some value =>
      cases found : value.toInt64? with
      | none =>
        simp only [found]
        exact .otherCode code (Json.toInt64?_eq_none_iff.mp found)
      | some number =>
        simp only [found]
        have whole := Json.toInt64?_eq_some_iff.mp found
        have text := @textOf_readText members "message"
        generalize readText members "message" = read at text ⊢
        cases read with
        | error cause => exact .noMessage code whole text
        | ok message => exact .error code whole text
  · rename_i noObject
    exact .other noObject

theorem ErrorOf.eq_ofJson {value : Json} {outcome : Except ProtocolError ResponseError}
    (rule : ErrorOf value outcome) : ResponseError.ofJson value = outcome := by
  unfold ResponseError.ofJson
  cases rule with
  | other noObject =>
    cases value with
    | object members => exact absurd rfl (noObject members)
    | null => rfl
    | bool _ => rfl
    | number _ => rfl
    | string _ => rfl
    | array _ => rfl
  | noCode absent => simp only [absent, bind, Except.bind]
  | otherCode present unwhole =>
    simp only [present, Json.toInt64?_eq_none_iff.mpr unwhole, bind, Except.bind]
  | noMessage present whole refused =>
    simp only [present, Json.toInt64?_eq_some_iff.mpr whole, refused.eq_readText, bind, Except.bind]
  | error present whole text =>
    simp only [present, Json.toInt64?_eq_some_iff.mpr whole, text.eq_readText, bind, Except.bind,
      pure, Except.pure]

/-! ### The reader of messages -/

theorem ofMembers_of_noId (noId : members.lookup "id" = none) :
    ofMembers members = readCall members fun method params => .notification ⟨method, params⟩ := by
  rw [ofMembers, noId]
  rfl

section Identified

variable {idValue : Json} {id : Option Id} (hasId : members.lookup "id" = some idValue)

include hasId in
theorem ofMembers_of_invalidId (noId : ∀ id, ¬ IdOf idValue id) :
    ofMembers members = .error .invalidId := by
  rw [ofMembers, hasId]
  simp only [readId_eq_error_iff.mpr noId, bind, Except.bind]

variable (isId : IdOf idValue id)

include hasId isId

theorem ofMembers_of_result {result : Json} (hasResult : members.lookup "result" = some result) :
    ofMembers members =
      if (members.lookup "method").isSome then .error (.ambiguousKind "result")
      else .ok (.response ⟨id, .ok result⟩) := by
  rw [ofMembers, hasId]
  simp only [readId_eq_ok_iff.mpr isId, hasResult, bind, Except.bind, pure, Except.pure]

theorem ofMembers_of_error {error : Json} (noResult : members.lookup "result" = none)
    (hasError : members.lookup "error" = some error) :
    ofMembers members =
      if (members.lookup "method").isSome then .error (.ambiguousKind "error")
      else (ResponseError.ofJson error).map fun failure => .response ⟨id, .error failure⟩ := by
  rw [ofMembers, hasId]
  simp only [readId_eq_ok_iff.mpr isId, noResult, hasError, bind, Except.bind, pure, Except.pure]
  rfl

theorem ofMembers_of_neither (noResult : members.lookup "result" = none)
    (noError : members.lookup "error" = none) :
    ofMembers members = id.elim (.error .nullIdRequest) fun id =>
      readCall members fun method params => .request ⟨id, method, params⟩ := by
  rw [ofMembers, hasId]
  simp only [readId_eq_ok_iff.mpr isId, noResult, noError, bind, Except.bind]
  cases id <;> rfl

end Identified

/-- Each outcome of the reader is the outcome of a rule. -/
theorem discriminates_ofMembers (members : Members) :
    Discriminates (.object members) (ofMembers members) := by
  have call := @callOf_readCall members
  have calls {α : Type} (make : String → Option Params → α) := call.eq_readCall make
  generalize readCall members Prod.mk = called at call calls
  cases hasId : members.lookup "id" with
  | none =>
    rw [ofMembers_of_noId hasId, calls]
    cases called with
    | error cause => exact .noNotification hasId call
    | ok named => exact .notification hasId call
  | some idValue =>
    cases read : readId idValue with
    | error cause =>
      have noId (id : Option Id) (isId : IdOf idValue id) : False := by
        rw [readId_eq_ok_iff.mpr isId] at read
        cases read
      rw [ofMembers_of_invalidId hasId noId]
      exact .invalidId hasId noId
    | ok id =>
      have isId := readId_eq_ok_iff.mp read
      cases hasResult : members.lookup "result" with
      | some result =>
        rw [ofMembers_of_result hasId isId hasResult]
        cases hasMethod : members.lookup "method" with
        | none => exact .success hasId isId hasResult hasMethod
        | some method => exact .ambiguousResult hasId isId hasResult hasMethod
      | none =>
        cases hasError : members.lookup "error" with
        | some error =>
          rw [ofMembers_of_error hasId isId hasResult hasError]
          have isError := errorOf_ofJson error
          generalize ResponseError.ofJson error = failure at isError ⊢
          cases hasMethod : members.lookup "method" with
          | some method => exact .ambiguousError hasId isId hasResult hasError hasMethod
          | none =>
            cases failure with
            | error cause => exact .noFailure hasId isId hasResult hasError hasMethod isError
            | ok failure => exact .failure hasId isId hasResult hasError hasMethod isError
        | none =>
          rw [ofMembers_of_neither hasId isId hasResult hasError]
          cases id with
          | none => exact .nullRequest hasId isId hasResult hasError
          | some id =>
            rw [Option.elim_some, calls]
            cases called with
            | error cause => exact .noRequest hasId isId hasResult hasError call
            | ok named => exact .request hasId isId hasResult hasError call

/-- The outcome of a rule is the outcome of the reader. -/
theorem Discriminates.eq_ofJson {value : Json} {outcome : Except ProtocolError Message}
    (rule : Discriminates value outcome) : ofJson value = outcome := by
  cases rule with
  | noObject noObject =>
    cases value with
    | object members => exact absurd rfl (noObject members)
    | null => rfl
    | bool _ => rfl
    | number _ => rfl
    | string _ => rfl
    | array _ => rfl
  | notification noId call => rw [ofJson, ofMembers_of_noId noId, call.eq_readCall, Except.map]
  | noNotification noId call => rw [ofJson, ofMembers_of_noId noId, call.eq_readCall, Except.map]
  | invalidId hasId noId => rw [ofJson, ofMembers_of_invalidId hasId noId]
  | ambiguousResult hasId isId hasResult hasMethod =>
    rw [ofJson, ofMembers_of_result hasId isId hasResult, hasMethod, Option.isSome_some,
      if_pos rfl]
  | success hasId isId hasResult noMethod =>
    rw [ofJson, ofMembers_of_result hasId isId hasResult, noMethod]
    rfl
  | ambiguousError hasId isId noResult hasError hasMethod =>
    rw [ofJson, ofMembers_of_error hasId isId noResult hasError, hasMethod, Option.isSome_some,
      if_pos rfl]
  | failure hasId isId noResult hasError noMethod isError =>
    rw [ofJson, ofMembers_of_error hasId isId noResult hasError, noMethod, isError.eq_ofJson]
    rfl
  | noFailure hasId isId noResult hasError noMethod noError =>
    rw [ofJson, ofMembers_of_error hasId isId noResult hasError, noMethod, noError.eq_ofJson]
    rfl
  | nullRequest hasId isNull noResult noError =>
    rw [ofJson, ofMembers_of_neither hasId isNull noResult noError, Option.elim_none]
  | request hasId isId noResult noError call =>
    rw [ofJson, ofMembers_of_neither hasId isId noResult noError, Option.elim_some,
      call.eq_readCall, Except.map]
  | noRequest hasId isId noResult noError call =>
    rw [ofJson, ofMembers_of_neither hasId isId noResult noError, Option.elim_some,
      call.eq_readCall, Except.map]

/-! ### Members that make no difference -/

/-- Errors that differ at most in members that no rule names. -/
inductive AlikeErrors : Option Json → Option Json → Prop where
  | same (error : Option Json) : AlikeErrors error error
  | objects {members others : Members} (code : members.lookup "code" = others.lookup "code")
      (message : members.lookup "message" = others.lookup "message")
      (data : members.lookup "data" = others.lookup "data") :
      AlikeErrors (some (.object members)) (some (.object others))

/-- Objects that differ at most in members that no rule names. -/
structure Alike (members others : Members) : Prop where
  id : members.lookup "id" = others.lookup "id"
  method : members.lookup "method" = others.lookup "method"
  params : members.lookup "params" = others.lookup "params"
  result : members.lookup "result" = others.lookup "result"
  error : AlikeErrors (members.lookup "error") (others.lookup "error")

theorem ofJson_of_alikeErrors {error other : Json} (alike : AlikeErrors (some error) (some other)) :
    ResponseError.ofJson error = ResponseError.ofJson other := by
  cases alike with
  | same => rfl
  | objects code message data =>
    simp only [ResponseError.ofJson, readText, code, message, data]

theorem ofMembers_of_alike {members others : Members} (alike : Alike members others) :
    ofMembers members = ofMembers others := by
  obtain ⟨id, method, params, result, error⟩ := alike
  simp only [ofMembers, readText, readParams, id, method, params, result]
  generalize members.lookup "error" = first at error ⊢
  generalize others.lookup "error" = second at error ⊢
  cases error with
  | same => rfl
  | objects code message data =>
    have read := ofJson_of_alikeErrors (.objects code message data)
    cases others.lookup "result" with
    | some result => rfl
    | none => simp only [read]

/-- A value is read as a message by the rules, each of which is followed wherever it applies, and
objects that differ only in members that no rule names are read alike. -/
theorem ofJson_eq_iff_discriminates :
    (∀ value outcome, ofJson value = outcome ↔ Discriminates value outcome) ∧
      ∀ members others, Alike members others →
        ofJson (.object members) = ofJson (.object others) := by
  refine ⟨fun value outcome => ⟨?_, Discriminates.eq_ofJson⟩, fun _ _ => ofMembers_of_alike⟩
  rintro rfl
  cases value with
  | object members => exact discriminates_ofMembers members
  | null => exact .noObject fun _ => Json.noConfusion
  | bool _ => exact .noObject fun _ => Json.noConfusion
  | number _ => exact .noObject fun _ => Json.noConfusion
  | string _ => exact .noObject fun _ => Json.noConfusion
  | array _ => exact .noObject fun _ => Json.noConfusion

/-- A response with an error and more members than one needs, also in the error, is read like the
one without them, which falls under the rule of failures. -/
theorem discriminates_of_further_members :
    let error : Members := [("code", .ofInt64 (-1)), ("message", .string "e")]
    let members : Members := [("error", .object error), ("id", .null)]
    let further : Members := [("error", .object (("Code", .null) :: error)), ("id", .null),
      ("jsonrpc", .bool false)]
    ofJson (.object members) = ofJson (.object further) ∧
      Discriminates (.object further) (.ok (.response ⟨none, .error ⟨-1, "e", none⟩⟩)) := by
  intro error members further
  obtain ⟨rules, same⟩ := ofJson_eq_iff_discriminates
  have alike : Alike members further := ⟨rfl, rfl, rfl, rfl, .objects rfl rfl rfl⟩
  exact ⟨same _ _ alike, (rules _ _).mp (by rfl)⟩

/-- The code 2^63 is an integer, but none that a response can carry: an error with it makes no
failure, though nothing else is wrong with it. -/
theorem not_failure_of_large_code :
    let code : Json.Integer := ⟨0x8000000000000000, by decide, by decide⟩
    let error : Members := [("code", .number (.integer code)), ("message", .string "e")]
    let members : Members := [("error", .object error), ("id", .ofInt64 1)]
    ofJson (.object members) = .error (.invalidField "code" "an integer") ∧
      ¬ ∀ (members error : Members) (id : Int64) (code : Json.Integer) (message : String),
        members.lookup "id" = some (.ofInt64 id) → members.lookup "result" = none →
        members.lookup "error" = some (.object error) → members.lookup "method" = none →
        error.lookup "code" = some (.number (.integer code)) →
        error.lookup "message" = some (.string message) →
        ∃ response, ofJson (.object members) = .ok (.response response) := by
  intro code error members
  have refused : ofJson (.object members) = .error (.invalidField "code" "an integer") := by rfl
  refine ⟨refused, fun all => ?_⟩
  obtain ⟨response, accepted⟩ := all members error 1 code "e" rfl rfl rfl rfl rfl rfl
  rw [refused] at accepted
  cases accepted

end Message

end LanguageClient
