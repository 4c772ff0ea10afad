import LanguageClient.Proofs.Call.Course
import LanguageClient.Proofs.Document.Reading

set_option autoImplicit false

namespace LanguageClient

namespace Call

variable {α : Type}

/-- The failure of a question whose result is not of the type that was asked for. The result is kept
as it came. -/
def unreadable (method : String) (value : Json) (reason : Json.DecodeError) : RequestError :=
  .server ⟨-32603, "Failed to decode result of " ++ method ++ ": " ++ reason.message, some value⟩

theorem yields_ask_iff {decoder : Json.Decoder α} {request : Request} {turns : List Turn}
    {result : Except RequestError α} :
    (ask decoder request).Yields turns result ↔ ∃ answer, turns = [.asked request answer] ∧
      result = answer.bind fun value =>
        (decoder value).mapError (unreadable request.method value) := by
  rw [ask, Dialogue.yields_request_iff]
  constructor
  · intro ⟨answer, rest, same, ended⟩
    refine ⟨answer, ?_⟩
    cases answer with
    | error error =>
      obtain ⟨last, value⟩ := Dialogue.yields_finish_iff.mp ended
      exact ⟨last ▸ same, value⟩
    | ok value =>
      dsimp only at ended
      change _ ∧ result = (decoder value).mapError (unreadable request.method value)
      cases decoded : decoder value with
      | ok found =>
        rw [decoded] at ended
        obtain ⟨last, value⟩ := Dialogue.yields_finish_iff.mp ended
        exact ⟨last ▸ same, value⟩
      | error reason =>
        rw [decoded] at ended
        obtain ⟨last, value⟩ := Dialogue.yields_finish_iff.mp (Dialogue.yields_record_iff.mp ended)
        exact ⟨last ▸ same, value⟩
  · intro ⟨answer, same, value⟩
    refine ⟨answer, [], same, ?_⟩
    cases answer with
    | error error =>
      rw [value]
      exact .finish _
    | ok found =>
      rw [value]
      dsimp only [Except.bind]
      cases decoder found with
      | ok read => exact .finish _
      | error reason => exact .record (.finish _)

/-- The values that are read as a list. Null stands for the empty one. -/
inductive ListOf (denotes : Json → α → Prop) : Json → List α → Prop where
  | null : ListOf denotes .null []
  | array {elements : List Json} {found : List α} (all : List.Forall₂ denotes elements found) :
      ListOf denotes (.array elements) found

theorem listOrNull_eq_ok_iff {element : Json.Decoder α} {denotes : Json → α → Prop}
    (agree : ∀ {value part}, element value = .ok part ↔ denotes value part) {value : Json}
    {found : List α} : listOrNull element value = .ok found ↔ ListOf denotes value found := by
  constructor
  · intro read
    unfold listOrNull at read
    cases optional : Json.Decoder.option (.list element) value with
    | error reason =>
      rw [optional] at read
      cases read
    | ok inner =>
      rw [optional] at read
      cases read
      rcases Json.Decoder.option_eq_ok_iff.mp optional with ⟨null, none⟩ | ⟨-, held, list, some⟩
      · rw [null, none]
        exact .null
      · obtain ⟨elements, isArray, all⟩ := Json.Decoder.list_eq_ok_iff.mp list
        rw [isArray, some]
        exact .array (all.imp fun value part read => agree.mp read)
  · intro isList
    cases isList with
    | null => rfl
    | array all =>
      have list := Json.Decoder.list_eq_ok_iff.mpr
        ⟨_, rfl, all.imp fun value part denoted => agree.mpr denoted⟩
      have optional := Json.Decoder.option_eq_ok_iff.mpr (Or.inr ⟨by simp, _, list, rfl⟩)
      rw [listOrNull, optional]
      rfl

/-- What becomes of the answer to a question for a list. -/
inductive Typed (decoder : Json.Decoder (List α)) (denotes : Json → α → Prop) (method : String) :
    Except RequestError Json → Except RequestError (List α) → Prop where
  | failed (error : RequestError) : Typed decoder denotes method (.error error) (.error error)
  | list {value : Json} {found : List α} (isList : ListOf denotes value found) :
      Typed decoder denotes method (.ok value) (.ok found)
  | unreadable {value : Json} {reason : Json.DecodeError}
      (noList : ∀ found, ¬ ListOf denotes value found) (reported : decoder value = .error reason) :
      Typed decoder denotes method (.ok value) (.error (unreadable method value reason))

theorem typed_iff {element : Json.Decoder α} {denotes : Json → α → Prop}
    (agree : ∀ {value part}, element value = .ok part ↔ denotes value part) {method : String}
    {answer : Except RequestError Json} {result : Except RequestError (List α)} :
    Typed (listOrNull element) denotes method answer result ↔
      result = answer.bind fun value =>
        (listOrNull element value).mapError (unreadable method value) := by
  constructor
  · intro typed
    cases typed with
    | failed error => rfl
    | @list value found isList =>
      rw [Except.bind, (listOrNull_eq_ok_iff agree).mpr isList]
      rfl
    | @unreadable value reason noList reported =>
      rw [Except.bind, reported]
      rfl
  · intro same
    rw [same]
    cases answer with
    | error error => exact .failed error
    | ok value =>
      rw [Except.bind]
      cases read : listOrNull element value with
      | ok found => exact .list ((listOrNull_eq_ok_iff agree).mp read)
      | error reason =>
        refine .unreadable (fun found isList => ?_) read
        rw [(listOrNull_eq_ok_iff agree).mpr isList] at read
        cases read

theorem typed_ok_iff {decoder : Json.Decoder (List α)} {denotes : Json → α → Prop}
    {method : String} {answer : Except RequestError Json} {found : List α} :
    Typed decoder denotes method answer (.ok found) ↔
      ∃ value, answer = .ok value ∧ ListOf denotes value found := by
  constructor
  · intro typed
    cases typed with
    | list isList => exact ⟨_, rfl, isList⟩
  · intro ⟨value, same, isList⟩
    rw [same]
    exact .list isList

theorem yields_symbols_iff {id : Id} {uri : String} {turns : List Turn}
    {result : Except RequestError (List Symbol)} :
    (symbols id uri).Yields turns result ↔ ∃ answer,
      turns = [.asked (.documentSymbols id uri) answer] ∧
      Typed (listOrNull Symbol.ofJson) Symbol.Denotes "textDocument/documentSymbol" answer
        result := by
  simp only [typed_iff Symbol.ofJson_eq_ok_iff]
  exact yields_ask_iff

theorem yields_references_iff {id : Id} {symbol : Symbol} {uri : String} {turns : List Turn}
    {result : Except RequestError (List Location)} :
    (references id symbol uri).Yields turns result ↔ ∃ answer,
      turns = [.asked (.references id symbol uri) answer] ∧
      Typed (listOrNull Location.ofJson) Location.Denotes "textDocument/references" answer
        result := by
  simp only [typed_iff Location.ofJson_eq_ok_iff]
  exact yields_ask_iff

/-- A question for symbols or for references comes to a whole list, to an error that holds the
result as it came, or to the failure of the request. -/
theorem yields_lists_iff_typed :
    (∀ id uri turns result, (symbols id uri).Yields turns result ↔ ∃ answer,
      turns = [.asked (.documentSymbols id uri) answer] ∧
      Typed (listOrNull Symbol.ofJson) Symbol.Denotes "textDocument/documentSymbol" answer result) ∧
    ∀ id symbol uri turns result, (references id symbol uri).Yields turns result ↔ ∃ answer,
      turns = [.asked (.references id symbol uri) answer] ∧
      Typed (listOrNull Location.ofJson) Location.Denotes "textDocument/references" answer
        result :=
  ⟨fun _ _ _ _ => yields_symbols_iff, fun _ _ _ _ _ => yields_references_iff⟩

/-- Members are read in any order, beside others, and positions as arrays. One symbol without a kind
leaves nothing of the list. -/
example :
    let position (line : UInt32) : Json := .array [.ofUInt32 line, .ofUInt32 0]
    let range : Json := .object [("end", position 2), ("start", position 0)]
    let read : Json := .object [("deprecated", .bool true), ("detail", .null),
      ("kind", .ofInt32 12), ("name", .string "f"), ("range", range), ("selectionRange", range)]
    let unread : Json := .object [("name", .string "g"), ("range", range),
      ("selectionRange", range)]
    let f : Symbol := .mk "f" none 12 ⟨⟨0, 0⟩, ⟨2, 0⟩⟩ ⟨⟨0, 0⟩, ⟨2, 0⟩⟩ []
    listOrNull Symbol.ofJson (.array [read, read]) = .ok [f, f] ∧
      listOrNull Symbol.ofJson (.array [read, unread]) = .error (.missing "kind") :=
  ⟨rfl, rfl⟩

end Call

end LanguageClient
