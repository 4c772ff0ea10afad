import LanguageClient.Call.Queries

set_option autoImplicit false

namespace LanguageClient

/-- A property of each entry of a list and of the entries that come before it. -/
def Throughout {α : Type} (holds : List α → α → Prop) (entries : List α) : Prop :=
  ∀ before entry after, entries = before ++ entry :: after → holds before entry

@[simp] theorem throughout_nil {α : Type} {holds : List α → α → Prop} : Throughout holds [] :=
  fun _ _ _ split => absurd split.symm (List.append_ne_nil_of_right_ne_nil _ (List.cons_ne_nil _ _))

theorem throughout_append_iff {α : Type} {holds : List α → α → Prop} {entries more : List α} :
    Throughout holds (entries ++ more) ↔
      Throughout holds entries ∧ Throughout (fun before => holds (entries ++ before)) more := by
  constructor
  · refine fun all => ⟨?_, ?_⟩
    · rintro before entry after rfl
      exact all before entry (after ++ more) (List.append_assoc _ _ _)
    · rintro before entry after rfl
      exact all (entries ++ before) entry after (List.append_assoc _ _ _).symm
  · rintro ⟨first, second⟩ before entry after split
    rcases List.append_eq_append_iff.mp split with ⟨middle, rfl, later⟩ | ⟨middle, earlier, later⟩
    · exact second middle entry after later
    · cases middle with
      | nil =>
        have empty := second [] entry after (by simpa using later.symm)
        rwa [earlier, List.append_nil, List.append_nil] at empty
      | cons head tail =>
        rw [List.cons_append, List.cons.injEq] at later
        obtain ⟨rfl, -⟩ := later
        exact first before entry tail earlier

@[simp] theorem throughout_cons_iff {α : Type} {holds : List α → α → Prop} {entry : α}
    {more : List α} :
    Throughout holds (entry :: more) ↔
      holds [] entry ∧ Throughout (fun before => holds (entry :: before)) more := by
  have single : Throughout holds [entry] ↔ holds [] entry := by
    constructor
    · exact fun all => all [] entry [] rfl
    · intro first before other after split
      rcases List.singleton_eq_append_iff.mp split with ⟨rfl, rest⟩ | ⟨-, empty⟩
      · obtain ⟨rfl, -⟩ := List.cons.inj rest
        exact first
      · exact absurd empty (List.cons_ne_nil _ _)
  rw [← List.singleton_append, throughout_append_iff, single]
  rfl

/-- Something that was said and what came back for it, or something that was printed. -/
inductive Turn where
  | asked (request : Request) (answer : Except RequestError Json)
  | told (notification : Notification) (result : Except TransportError Unit)
  | printed (text : String)

namespace Turn

def message? : Turn → Option Message
  | asked request _ => some (.request request)
  | told notification _ => some (.notification notification)
  | printed _ => none

def method? : Turn → Option String
  | asked request _ => some request.method
  | told notification _ => some notification.method
  | printed _ => none

def messages (turns : List Turn) : List Message := turns.filterMap message?

@[simp] theorem messages_append (turns more : List Turn) :
    messages (turns ++ more) = messages turns ++ messages more := List.filterMap_append

@[simp] theorem messages_printed (texts : List String) : messages (texts.map printed) = [] := by
  simp [messages, message?]

theorem eq_told_of_message? {turn : Turn} {notification : Notification}
    (same : turn.message? = some (.notification notification)) :
    ∃ result, turn = .told notification result := by
  cases turn with
  | asked request answer => cases same
  | told other result =>
    cases same
    exact ⟨result, rfl⟩
  | printed text => cases same

end Turn

namespace Dialogue

variable {α β : Type}

/-- A dialogue that takes some turns from its beginning to its end, and the value that it ends
with. -/
inductive Yields : Dialogue α → List Turn → α → Prop where
  | finish (value : α) : Yields (.finish value) [] value
  | request {request : Request} {next : Except RequestError Json → Dialogue α}
      {answer : Except RequestError Json} {turns : List Turn} {value : α}
      (rest : Yields (next answer) turns value) :
      Yields (.request request next) (.asked request answer :: turns) value
  | notify {notification : Notification} {next : Except TransportError Unit → Dialogue α}
      {result : Except TransportError Unit} {turns : List Turn} {value : α}
      (rest : Yields (next result) turns value) :
      Yields (.notify notification next) (.told notification result :: turns) value
  | record {record : Log.Record} {next : Dialogue α} {turns : List Turn} {value : α}
      (rest : Yields next turns value) : Yields (.record record next) turns value
  | print {text : String} {next : Dialogue α} {turns : List Turn} {value : α}
      (rest : Yields next turns value) : Yields (.print text next) (.printed text :: turns) value

@[simp] theorem yields_finish_iff {result value : α} {turns : List Turn} :
    (finish result).Yields turns value ↔ turns = [] ∧ value = result := by
  constructor
  · intro yields
    cases yields
    exact ⟨rfl, rfl⟩
  · rintro ⟨rfl, rfl⟩
    exact .finish value

@[simp] theorem yields_request_iff {question : Request}
    {next : Except RequestError Json → Dialogue α} {turns : List Turn} {value : α} :
    (request question next).Yields turns value ↔
      ∃ answer rest, turns = .asked question answer :: rest ∧ (next answer).Yields rest value := by
  constructor
  · intro yields
    cases yields with
    | request rest => exact ⟨_, _, rfl, rest⟩
  · rintro ⟨answer, rest, rfl, yields⟩
    exact .request yields

@[simp] theorem yields_notify_iff {notification : Notification}
    {next : Except TransportError Unit → Dialogue α} {turns : List Turn} {value : α} :
    (notify notification next).Yields turns value ↔
      ∃ result rest, turns = .told notification result :: rest ∧
        (next result).Yields rest value := by
  constructor
  · intro yields
    cases yields with
    | notify rest => exact ⟨_, _, rfl, rest⟩
  · rintro ⟨result, rest, rfl, yields⟩
    exact .notify yields

@[simp] theorem yields_record_iff {entry : Log.Record} {next : Dialogue α} {turns : List Turn}
    {value : α} : (record entry next).Yields turns value ↔ next.Yields turns value := by
  constructor
  · intro yields
    cases yields with
    | record rest => exact rest
  · exact .record

@[simp] theorem yields_print_iff {text : String} {next : Dialogue α} {turns : List Turn}
    {value : α} :
    (print text next).Yields turns value ↔
      ∃ rest, turns = .printed text :: rest ∧ next.Yields rest value := by
  constructor
  · intro yields
    cases yields with
    | print rest => exact ⟨_, rfl, rest⟩
  · rintro ⟨rest, rfl, yields⟩
    exact .print yields

theorem yields_bind_iff {dialogue : Dialogue α} {after : α → Dialogue β} {turns : List Turn}
    {value : β} :
    (dialogue.bind after).Yields turns value ↔
      ∃ first middle second, turns = first ++ second ∧ dialogue.Yields first middle ∧
        (after middle).Yields second value := by
  induction dialogue generalizing turns with
  | finish result =>
    constructor
    · intro yields
      exact ⟨[], result, turns, rfl, .finish result, yields⟩
    · rintro ⟨first, middle, second, rfl, begun, ended⟩
      obtain ⟨rfl, rfl⟩ := yields_finish_iff.mp begun
      exact ended
  | request question next ih =>
    simp only [bind, yields_request_iff, ih]
    constructor
    · rintro ⟨answer, -, rfl, first, middle, second, rfl, begun, ended⟩
      exact ⟨.asked question answer :: first, middle, second, rfl, ⟨answer, first, rfl, begun⟩,
        ended⟩
    · rintro ⟨-, middle, second, rfl, ⟨answer, first, rfl, begun⟩, ended⟩
      exact ⟨answer, first ++ second, rfl, first, middle, second, rfl, begun, ended⟩
  | notify notification next ih =>
    simp only [bind, yields_notify_iff, ih]
    constructor
    · rintro ⟨result, -, rfl, first, middle, second, rfl, begun, ended⟩
      exact ⟨.told notification result :: first, middle, second, rfl, ⟨result, first, rfl, begun⟩,
        ended⟩
    · rintro ⟨-, middle, second, rfl, ⟨result, first, rfl, begun⟩, ended⟩
      exact ⟨result, first ++ second, rfl, first, middle, second, rfl, begun, ended⟩
  | record entry next ih => simp only [bind, yields_record_iff, ih]
  | print text next ih =>
    simp only [bind, yields_print_iff, ih]
    constructor
    · rintro ⟨-, rfl, first, middle, second, rfl, begun, ended⟩
      exact ⟨.printed text :: first, middle, second, rfl, ⟨first, rfl, begun⟩, ended⟩
    · rintro ⟨-, middle, second, rfl, ⟨first, rfl, begun⟩, ended⟩
      exact ⟨first ++ second, rfl, first, middle, second, rfl, begun, ended⟩

theorem yields_bind_finish_iff {dialogue : Dialogue α} {change : α → β} {turns : List Turn}
    {value : β} :
    (dialogue.bind fun middle => finish (change middle)).Yields turns value ↔
      ∃ middle, dialogue.Yields turns middle ∧ value = change middle := by
  rw [yields_bind_iff]
  constructor
  · intro yields
    obtain ⟨first, middle, second, rfl, begun, ended⟩ := yields
    obtain ⟨rfl, rfl⟩ := yields_finish_iff.mp ended
    rw [List.append_nil]
    exact ⟨middle, begun, rfl⟩
  · intro yields
    obtain ⟨middle, begun, rfl⟩ := yields
    exact ⟨turns, middle, [], (List.append_nil _).symm, begun, .finish _⟩

/-- The turns of a dialogue do not go on behind its end, and decide its value. -/
theorem Yields.unique {dialogue : Dialogue α} {first second later rest : List Turn}
    {value other : α} (yields : dialogue.Yields first value) (also : dialogue.Yields second other)
    (same : first ++ later = second ++ rest) : first = second ∧ value = other := by
  induction yields generalizing second with
  | finish value =>
    obtain ⟨rfl, rfl⟩ := yields_finish_iff.mp also
    exact ⟨rfl, rfl⟩
  | request _ ih =>
    obtain ⟨answer, turns, rfl, yields⟩ := yields_request_iff.mp also
    rw [List.cons_append, List.cons_append, List.cons.injEq, Turn.asked.injEq] at same
    obtain ⟨⟨-, rfl⟩, following⟩ := same
    obtain ⟨rfl, rfl⟩ := ih yields following
    exact ⟨rfl, rfl⟩
  | notify _ ih =>
    obtain ⟨result, turns, rfl, yields⟩ := yields_notify_iff.mp also
    rw [List.cons_append, List.cons_append, List.cons.injEq, Turn.told.injEq] at same
    obtain ⟨⟨-, rfl⟩, following⟩ := same
    obtain ⟨rfl, rfl⟩ := ih yields following
    exact ⟨rfl, rfl⟩
  | record _ ih => exact ih (yields_record_iff.mp also) same
  | print _ ih =>
    obtain ⟨turns, rfl, yields⟩ := yields_print_iff.mp also
    rw [List.cons_append, List.cons_append, List.cons.injEq] at same
    obtain ⟨rfl, rfl⟩ := ih yields same.2
    exact ⟨rfl, rfl⟩

theorem exists_yields (dialogue : Dialogue α) : ∃ turns value, dialogue.Yields turns value := by
  induction dialogue with
  | finish value => exact ⟨[], value, .finish value⟩
  | request question next ih =>
    obtain ⟨turns, value, yields⟩ := ih (.ok .null)
    exact ⟨_, value, .request yields⟩
  | notify notification next ih =>
    obtain ⟨turns, value, yields⟩ := ih (.ok ())
    exact ⟨_, value, .notify yields⟩
  | record entry next ih =>
    obtain ⟨turns, value, yields⟩ := ih
    exact ⟨turns, value, .record yields⟩
  | print text next ih =>
    obtain ⟨turns, value, yields⟩ := ih
    exact ⟨_, value, .print yields⟩

end Dialogue

namespace Call

theorem yields_notify_iff {notification : Notification} {turns : List Turn}
    {result : Except TransportError Unit} :
    (notify notification).Yields turns result ↔ turns = [.told notification result] := by
  constructor
  · intro yields
    obtain ⟨sent, rest, rfl, ended⟩ := Dialogue.yields_notify_iff.mp yields
    obtain ⟨rfl, rfl⟩ := Dialogue.yields_finish_iff.mp ended
    rfl
  · intro same
    subst same
    exact .notify (.finish result)

theorem turns_of_yields_ask {α : Type} {decoder : Json.Decoder α} {request : Request}
    {turns : List Turn} {result : Except RequestError α}
    (yields : (ask decoder request).Yields turns result) :
    ∃ answer, turns = [.asked request answer] := by
  obtain ⟨answer, rest, rfl, ended⟩ := Dialogue.yields_request_iff.mp yields
  refine ⟨answer, ?_⟩
  cases answer with
  | error error => rw [(Dialogue.yields_finish_iff.mp ended).1]
  | ok value =>
    dsimp only at ended
    cases decoded : decoder value with
    | ok found =>
      rw [decoded] at ended
      rw [(Dialogue.yields_finish_iff.mp ended).1]
    | error reason =>
      rw [decoded] at ended
      rw [(Dialogue.yields_finish_iff.mp (Dialogue.yields_record_iff.mp ended)).1]

theorem turns_of_yields_workspaceSymbols {id : Id} {query : String} {turns : List Turn}
    {result : Except RequestError Json}
    (yields : (workspaceSymbols id query).Yields turns result) :
    ∃ answer, turns = [.asked (.workspaceSymbols id query) answer] := by
  obtain ⟨answer, rest, same, ended⟩ := Dialogue.yields_request_iff.mp yields
  obtain ⟨last, -⟩ := Dialogue.yields_finish_iff.mp ended
  exact ⟨answer, last ▸ same⟩

/-- A handshake asks, and announces the client only when the server has answered. -/
theorem yields_handshake_iff {id : Id} {rootUri : String} {process : UInt32} {turns : List Turn}
    {result : Except RequestError Json} :
    (handshake id rootUri process).Yields turns result ↔
      (∃ error, turns = [.asked (.handshake id rootUri process) (.error error)] ∧
        result = .error error) ∨
      ∃ value, (∃ error, turns = [.asked (.handshake id rootUri process) (.ok value),
          .told .initialized (.error error)] ∧ result = .error (.transport error)) ∨
        turns = [.asked (.handshake id rootUri process) (.ok value),
          .told .initialized (.ok ())] ∧
        result = .ok ((value.member? "capabilities").getD .null) := by
  unfold handshake
  rw [Dialogue.yields_request_iff]
  constructor
  · rintro ⟨error | value, rest, rfl, answered⟩
    · obtain ⟨rfl, rfl⟩ := Dialogue.yields_finish_iff.mp answered
      exact .inl ⟨error, rfl, rfl⟩
    · obtain ⟨error | ⟨⟩, last, rfl, sent⟩ := Dialogue.yields_notify_iff.mp answered
      · obtain ⟨rfl, rfl⟩ := Dialogue.yields_finish_iff.mp sent
        exact .inr ⟨value, .inl ⟨error, rfl, rfl⟩⟩
      · obtain ⟨rfl, rfl⟩ := Dialogue.yields_finish_iff.mp (Dialogue.yields_record_iff.mp sent)
        exact .inr ⟨value, .inr ⟨rfl, rfl⟩⟩
  · rintro (⟨error, rfl, rfl⟩ | ⟨value, ⟨error, rfl, rfl⟩ | ⟨rfl, rfl⟩⟩)
    · exact ⟨.error error, [], rfl, .finish _⟩
    · exact ⟨.ok value, _, rfl, .notify (.finish _)⟩
    · exact ⟨.ok value, _, rfl, .notify (.record (.finish _))⟩

/-- A farewell asks the server to shut down, and tells it to exit only when it has answered. -/
theorem turns_of_yields_shutdownAndExit {id : Id} {turns : List Turn}
    {result : Except RequestError Unit} (yields : (shutdownAndExit id).Yields turns result) :
    (∃ error, turns = [.asked (.shutdown id) (.error error)]) ∨
      ∃ value sent, turns = [.asked (.shutdown id) (.ok value), .told .exit sent] := by
  obtain ⟨error | value, rest, rfl, answered⟩ := Dialogue.yields_request_iff.mp yields
  · obtain ⟨rfl, -⟩ := Dialogue.yields_finish_iff.mp answered
    exact .inl ⟨error, rfl⟩
  · obtain ⟨sent, last, rfl, ended⟩ := Dialogue.yields_notify_iff.mp answered
    refine .inr ⟨value, sent, ?_⟩
    cases sent with
    | error error => rw [(Dialogue.yields_finish_iff.mp ended).1]
    | ok => rw [(Dialogue.yields_finish_iff.mp ended).1]

end Call

end LanguageClient
