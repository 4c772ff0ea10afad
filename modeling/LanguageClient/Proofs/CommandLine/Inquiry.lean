import LanguageClient.CommandLine.Session
import LanguageClient.Proofs.Call.Course

set_option autoImplicit false

namespace LanguageClient

namespace Session

variable {α β : Type}

theorem yields_bind_iff {first : Session α} {after : α → Session β} {turns : List Turn}
    {result : Except Abort β} :
    (first >>= after).run.Yields turns result ↔
      (∃ abort, first.run.Yields turns (.error abort) ∧ result = .error abort) ∨
      ∃ value begun rest, turns = begun ++ rest ∧ first.run.Yields begun (.ok value) ∧
        (after value).run.Yields rest result := by
  change (Dialogue.bind first.run (ExceptT.bindCont after)).Yields turns result ↔ _
  rw [Dialogue.yields_bind_iff]
  constructor
  · intro yields
    obtain ⟨begun, middle, rest, rfl, first, last⟩ := yields
    cases middle with
    | error abort =>
      obtain ⟨rfl, rfl⟩ := Dialogue.yields_finish_iff.mp last
      rw [List.append_nil]
      exact .inl ⟨abort, first, rfl⟩
    | ok value => exact .inr ⟨value, begun, rest, rfl, first, last⟩
  · intro yields
    rcases yields with ⟨abort, first, rfl⟩ | ⟨value, begun, rest, rfl, first, last⟩
    · exact ⟨turns, .error abort, [], (List.append_nil _).symm, first, .finish _⟩
    · exact ⟨begun, .ok value, rest, rfl, first, last⟩

theorem yields_pure_iff {value : α} {turns : List Turn} {result : Except Abort α} :
    (pure value : Session α).run.Yields turns result ↔ turns = [] ∧ result = .ok value :=
  Dialogue.yields_finish_iff

theorem yields_throw_iff {abort : Abort} {turns : List Turn} {result : Except Abort α} :
    (throw abort : Session α).run.Yields turns result ↔ turns = [] ∧ result = .error abort :=
  Dialogue.yields_finish_iff

theorem yields_ofResult_iff {outcome result : Except Abort α} {turns : List Turn} :
    (ofResult outcome).run.Yields turns result ↔ turns = [] ∧ result = outcome :=
  Dialogue.yields_finish_iff

theorem yields_ask_iff {call : Dialogue (Except RequestError α)} {turns : List Turn}
    {result : Except Abort α} :
    (ask call).run.Yields turns result ↔
      ∃ answer, call.Yields turns answer ∧ result = answer.mapError Abort.ofRequest :=
  Dialogue.yields_bind_finish_iff

theorem yields_ofResult_bind_iff {outcome : Except Abort α} {after : α → Session β}
    {turns : List Turn} {result : Except Abort β} :
    (ofResult outcome >>= after).run.Yields turns result ↔
      (∃ abort, outcome = .error abort ∧ turns = [] ∧ result = .error abort) ∨
      ∃ value, outcome = .ok value ∧ (after value).run.Yields turns result := by
  change (ExceptT.bindCont after outcome).Yields turns result ↔ _
  cases outcome with
  | error abort => simp [ExceptT.bindCont, pure]
  | ok value => simp [ExceptT.bindCont, ExceptT.run]

theorem yields_tell_bind_iff {notification : Notification} {after : Unit → Session β}
    {turns : List Turn} {result : Except Abort β} :
    (tell notification >>= after).run.Yields turns result ↔
      (∃ error, turns = [.told notification (.error error)] ∧
        result = .error (Abort.ofTransport error)) ∨
      ∃ rest, turns = .told notification (.ok ()) :: rest ∧ (after ()).run.Yields rest result := by
  change (Dialogue.notify notification fun sent =>
    ExceptT.bindCont after (sent.mapError Abort.ofTransport)).Yields turns result ↔ _
  rw [Dialogue.yields_notify_iff]
  constructor
  · intro yields
    obtain ⟨sent, rest, rfl, ended⟩ := yields
    cases sent with
    | error error =>
      obtain ⟨rfl, rfl⟩ := Dialogue.yields_finish_iff.mp ended
      exact .inl ⟨error, rfl, rfl⟩
    | ok => exact .inr ⟨rest, rfl, ended⟩
  · intro yields
    rcases yields with ⟨error, rfl, rfl⟩ | ⟨rest, rfl, ended⟩
    · exact ⟨.error error, [], rfl, .finish _⟩
    · exact ⟨.ok (), rest, rfl, ended⟩

theorem yields_lift_bind_iff {dialogue : Dialogue α} {after : α → Session β} {turns : List Turn}
    {result : Except Abort β} :
    (ExceptT.lift dialogue >>= after).run.Yields turns result ↔
      ∃ begun value rest, turns = begun ++ rest ∧ dialogue.Yields begun value ∧
        (after value).run.Yields rest result := by
  change (Dialogue.bind (dialogue.bind fun value => .finish (.ok value))
    (ExceptT.bindCont after)).Yields turns result ↔ _
  rw [Dialogue.yields_bind_iff]
  constructor
  · intro yields
    obtain ⟨begun, outcome, rest, rfl, first, last⟩ := yields
    obtain ⟨value, lifted, rfl⟩ := Dialogue.yields_bind_finish_iff.mp first
    exact ⟨begun, value, rest, rfl, lifted, last⟩
  · intro yields
    obtain ⟨begun, value, rest, rfl, lifted, last⟩ := yields
    exact ⟨begun, .ok value, rest, rfl,
      Dialogue.yields_bind_finish_iff.mpr ⟨value, lifted, rfl⟩, last⟩

theorem yields_print_iff {text : String} {turns : List Turn} {result : Except Abort Unit} :
    (print text).run.Yields turns result ↔ turns = [.printed text] ∧ result = .ok () := by
  refine Dialogue.yields_print_iff.trans ?_
  constructor
  · intro ⟨rest, same, ended⟩
    obtain ⟨last, done⟩ := Dialogue.yields_finish_iff.mp ended
    exact ⟨last ▸ same, done⟩
  · intro ⟨same, done⟩
    exact ⟨[], same, Dialogue.yields_finish_iff.mpr ⟨rfl, done⟩⟩

theorem yields_printAll_cons_iff {line : Except Abort String} {rest : List (Except Abort String)}
    {turns : List Turn} {result : Except Abort Unit} :
    (printAll (line :: rest)).run.Yields turns result ↔
      (∃ abort, line = .error abort ∧ turns = [] ∧ result = .error abort) ∨
      ∃ text later, line = .ok text ∧ turns = .printed text :: later ∧
        (printAll rest).run.Yields later result := by
  refine yields_ofResult_bind_iff.trans (or_congr_right (exists_congr fun text => ?_))
  rw [yields_bind_iff]
  constructor
  · intro ⟨made, printing⟩
    rcases printing with ⟨abort, first, -⟩ | ⟨_, begun, later, same, first, further⟩
    · cases (yields_print_iff.mp first).2
    · rw [(yields_print_iff.mp first).1] at same
      exact ⟨later, made, same, further⟩
  · intro ⟨later, made, same, further⟩
    exact ⟨made, Or.inr ⟨(), [_], later, same, yields_print_iff.mpr ⟨rfl, rfl⟩, further⟩⟩

theorem exists_texts_of_yields_printAll {lines : List (Except Abort String)} {turns : List Turn}
    {result : Except Abort Unit} (yields : (printAll lines).run.Yields turns result) :
    ∃ texts : List String, turns = texts.map .printed := by
  induction lines generalizing turns with
  | nil => exact ⟨[], (yields_pure_iff.mp yields).1⟩
  | cons line rest ih =>
    rcases yields_printAll_cons_iff.mp yields with
      ⟨abort, -, none, -⟩ | ⟨text, later, -, same, more⟩
    · exact ⟨[], none⟩
    · obtain ⟨texts, printed⟩ := ih more
      exact ⟨text :: texts, by rw [same, printed]; rfl⟩

/-- A file that is read is opened, and one that is opened is asked about and closed. -/
theorem turns_of_yields_documentSymbols {id : Id} {language : Language} {read : FileReader}
    {path : Path} {turns : List Turn} {result : Except Abort (List Symbol)}
    (yields : (documentSymbols id language read path).run.Yields turns result) :
    ((∃ reason, read path = .error reason) ∧ turns = [] ∧ ∃ abort, result = .error abort) ∨
    ∃ text, read path = .ok text ∧
      ((∃ error, turns = [.told (.didOpen (Uri.ofPath none path) language text) (.error error)] ∧
          ∃ abort, result = .error abort) ∨
        ∃ answer closed, turns = [.told (.didOpen (Uri.ofPath none path) language text) (.ok ()),
          .asked (.documentSymbols id (Uri.ofPath none path)) answer,
          .told (.didClose (Uri.ofPath none path)) closed]) := by
  unfold documentSymbols at yields
  cases content : read path with
  | error reason =>
    rw [content, yields_ofResult_bind_iff] at yields
    rcases yields with ⟨abort, -, rfl, rfl⟩ | ⟨text, same, -⟩
    · exact .inl ⟨⟨reason, rfl⟩, rfl, abort, rfl⟩
    · cases same
  | ok text =>
    rw [content, yields_ofResult_bind_iff] at yields
    refine .inr ⟨text, rfl, ?_⟩
    rcases yields with ⟨abort, same, -⟩ | ⟨other, same, opening⟩
    · cases same
    cases same
    rcases yields_tell_bind_iff.mp opening with ⟨error, rfl, rfl⟩ | ⟨opened, rfl, asking⟩
    · exact .inl ⟨error, rfl, _, rfl⟩
    obtain ⟨begun, symbols, rest, rfl, asked, closing⟩ := yields_lift_bind_iff.mp asking
    obtain ⟨answer, rfl⟩ := Call.turns_of_yields_ask asked
    rcases yields_tell_bind_iff.mp closing with ⟨error, rfl, -⟩ | ⟨last, rfl, ended⟩
    · exact .inr ⟨answer, .error error, rfl⟩
    · obtain ⟨rfl, -⟩ := yields_ofResult_iff.mp ended
      exact .inr ⟨answer, .ok (), rfl⟩

end Session

namespace Inquiry

def uri (root file : Path) : String := Uri.ofPath none (Path.join root file)

/-- The courses of an inquiry. -/
inductive Course (ids : Ids) (language : Language) (root : Path) (read : FileReader) :
    Inquiry → List Turn → Prop where
  | capabilities : Course ids language root read .capabilities []
  | unread {inquiry : Inquiry} {file : Path} {reason : String} (asked : inquiry.file? = some file)
      (unreadable : read (Path.join root file) = .error reason) :
      Course ids language root read inquiry []
  | unopened {inquiry : Inquiry} {file : Path} {text : String} {error : TransportError}
      (asked : inquiry.file? = some file) (readable : read (Path.join root file) = .ok text) :
      Course ids language root read inquiry
        [.told (.didOpen (uri root file) language text) (.error error)]
  | examined {inquiry : Inquiry} {file : Path} {text : String} {answer : Except RequestError Json}
      {closed : Except TransportError Unit} (asked : inquiry.file? = some file)
      (readable : read (Path.join root file) = .ok text) :
      Course ids language root read inquiry
        [.told (.didOpen (uri root file) language text) (.ok ()),
          .asked (.documentSymbols ids.question (uri root file)) answer,
          .told (.didClose (uri root file)) closed]
  | referred {file : Path} {name text : String} {answer places : Except RequestError Json}
      {closed : Except TransportError Unit} {symbol : Symbol}
      (readable : read (Path.join root file) = .ok text) :
      Course ids language root read (.references file name)
        [.told (.didOpen (uri root file) language text) (.ok ()),
          .asked (.documentSymbols ids.question (uri root file)) answer,
          .told (.didClose (uri root file)) closed,
          .asked (.references ids.references symbol (uri root file)) places]
  | searched {query : String} {answer : Except RequestError Json} :
      Course ids language root read (.workspaceSymbols query)
        [.asked (.workspaceSymbols ids.question query) answer]

variable {ids : Ids} {language : Language} {root : Path} {read : FileReader} {inquiry : Inquiry}
  {turns : List Turn}

theorem course_of_yields_documentSymbols {file : Path} {result : Except Abort (List Symbol)}
    (asked : inquiry.file? = some file)
    (yields : (Session.documentSymbols ids.question language read
      (Path.join root file)).run.Yields turns result) :
    inquiry.Course ids language root read turns := by
  rcases Session.turns_of_yields_documentSymbols yields with
    ⟨⟨reason, unreadable⟩, rfl, -⟩ | ⟨text, readable, ⟨error, rfl, -⟩ | ⟨answer, closed, rfl⟩⟩
  · exact .unread asked unreadable
  · exact .unopened asked readable
  · exact .examined asked readable

/-- An inquiry takes its course, and prints behind it. -/
theorem course_of_yields_answer {capabilities : Json} {result : Except Abort Unit}
    (yields : (inquiry.answer ids language root read capabilities).run.Yields turns result) :
    ∃ (told : List Turn) (texts : List String), inquiry.Course ids language root read told ∧
      turns = told ++ texts.map .printed := by
  cases inquiry with
  | capabilities => exact ⟨[], [_], .capabilities, (Session.yields_print_iff.mp yields).1⟩
  | symbols file =>
    rcases Session.yields_bind_iff.mp yields with
      ⟨abort, examined, -⟩ | ⟨symbols, begun, rest, same, examined, printing⟩
    · exact ⟨turns, [], course_of_yields_documentSymbols rfl examined, (List.append_nil _).symm⟩
    · obtain ⟨texts, printed⟩ := Session.exists_texts_of_yields_printAll printing
      exact ⟨begun, texts, course_of_yields_documentSymbols rfl examined, printed ▸ same⟩
  | references file name =>
    rcases Session.yields_bind_iff.mp yields with
      ⟨abort, examined, -⟩ | ⟨symbols, begun, rest, same, examined, referring⟩
    · exact ⟨turns, [], course_of_yields_documentSymbols rfl examined, (List.append_nil _).symm⟩
    cases found : Symbol.find? name symbols with
    | none =>
      simp only [found] at referring
      obtain ⟨ended, -⟩ := Session.yields_throw_iff.mp referring
      refine ⟨begun, [], course_of_yields_documentSymbols rfl examined, ?_⟩
      rw [same, ended]
      rfl
    | some symbol =>
      simp only [found] at referring
      -- Symbols are only there when the document was opened.
      have referred (places : Except RequestError Json) :
          Course ids language root read (.references file name)
            (begun ++ [.asked (.references ids.references symbol (uri root file)) places]) := by
        rcases Session.turns_of_yields_documentSymbols examined with
          ⟨-, -, abort, ended⟩ |
            ⟨text, readable, ⟨error, -, abort, ended⟩ | ⟨answer, closed, course⟩⟩
        · cases ended
        · cases ended
        · rw [course]
          exact .referred readable
      rcases Session.yields_bind_iff.mp referring with
        ⟨abort, asked, -⟩ | ⟨locations, asking, later, split, asked, printing⟩
      · obtain ⟨outcome, asks, -⟩ := Session.yields_ask_iff.mp asked
        obtain ⟨places, last⟩ := Call.turns_of_yields_ask asks
        refine ⟨_, [], referred places, ?_⟩
        rw [same, last]
        exact (List.append_nil _).symm
      · obtain ⟨outcome, asks, -⟩ := Session.yields_ask_iff.mp asked
        obtain ⟨places, last⟩ := Call.turns_of_yields_ask asks
        obtain ⟨texts, printed⟩ := Session.exists_texts_of_yields_printAll printing
        refine ⟨_, texts, referred places, ?_⟩
        rw [same, split, last, printed]
        exact (List.append_assoc _ _ _).symm
  | workspaceSymbols query =>
    rcases Session.yields_bind_iff.mp yields with
      ⟨abort, asked, -⟩ | ⟨symbols, begun, rest, same, asked, printing⟩
    · obtain ⟨found, searches, -⟩ := Session.yields_ask_iff.mp asked
      obtain ⟨answer, last⟩ := Call.turns_of_yields_workspaceSymbols searches
      exact ⟨turns, [], last ▸ .searched, (List.append_nil _).symm⟩
    · obtain ⟨found, searches, -⟩ := Session.yields_ask_iff.mp asked
      obtain ⟨answer, last⟩ := Call.turns_of_yields_workspaceSymbols searches
      exact ⟨begun, [_], last ▸ .searched, (Session.yields_print_iff.mp printing).1 ▸ same⟩

def lifeCycle : List String := ["initialize", "initialized", "shutdown", "exit"]

def OfLifeCycle (turn : Turn) : Prop := ∃ method, turn.method? = some method ∧ method ∈ lifeCycle

theorem not_ofLifeCycle_printed (text : String) : ¬ OfLifeCycle (.printed text) := by
  intro lives
  obtain ⟨method, same, -⟩ := lives
  cases same

theorem Course.not_ofLifeCycle (course : inquiry.Course ids language root read turns) {turn : Turn}
    (mem : turn ∈ turns) : ¬ OfLifeCycle turn := by
  cases course with
  | capabilities => cases mem
  | unread asked unreadable => cases mem
  | unopened asked readable =>
    rw [List.mem_singleton.mp mem]
    simp [OfLifeCycle, lifeCycle, Turn.method?, Notification.didOpen]
  | examined asked readable =>
    simp only [List.mem_cons, List.not_mem_nil, or_false] at mem
    rcases mem with rfl | rfl | rfl <;>
      simp [OfLifeCycle, lifeCycle, Turn.method?, Notification.didOpen, Request.documentSymbols,
        Notification.didClose]
  | referred readable =>
    simp only [List.mem_cons, List.not_mem_nil, or_false] at mem
    rcases mem with rfl | rfl | rfl | rfl <;>
      simp [OfLifeCycle, lifeCycle, Turn.method?, Notification.didOpen, Request.documentSymbols,
        Notification.didClose, Request.references]
  | searched =>
    rw [List.mem_singleton.mp mem]
    simp [OfLifeCycle, lifeCycle, Turn.method?, Request.workspaceSymbols]

theorem didOpen_ne_didClose (uri other text : String) (language : Language) :
    Notification.didOpen uri language text ≠ Notification.didClose other := by
  intro same
  have methods := congrArg Notification.method same
  simp [Notification.didOpen, Notification.didClose] at methods

theorem uri_eq_of_didOpen {uri other text content : String} {language spoken : Language}
    (same : Notification.didOpen uri language text = .didOpen other spoken content) :
    uri = other := by
  simp only [Notification.didOpen, Notification.mk.injEq, Option.some.injEq, Params.object.injEq,
    List.cons.injEq, Prod.mk.injEq, Json.object.injEq, Json.string.injEq] at same
  exact same.2.1.2.2.2.1.2

/-- A document that was opened is closed again. -/
theorem Course.closes (course : inquiry.Course ids language root read turns) {uri text : String}
    {spoken : Language} (opened : .told (.didOpen uri spoken text) (.ok ()) ∈ turns) :
    ∃ closed, [.told (.didOpen uri spoken text) (.ok ()),
      .told (.didClose uri) closed].Sublist turns := by
  cases course with
  | capabilities => cases opened
  | unread asked unreadable => cases opened
  | unopened asked readable => simp at opened
  | examined asked readable =>
    rename_i file content answer closed
    have same : Notification.didOpen uri spoken text =
        .didOpen (Inquiry.uri root file) language content := by
      simpa [didOpen_ne_didClose] using opened
    rw [same, uri_eq_of_didOpen same]
    exact ⟨closed, by simp⟩
  | referred readable =>
    rename_i file name content answer places closed symbol
    have same : Notification.didOpen uri spoken text =
        .didOpen (Inquiry.uri root file) language content := by
      simpa [didOpen_ne_didClose] using opened
    rw [same, uri_eq_of_didOpen same]
    exact ⟨closed, by simp⟩
  | searched => simp at opened

end Inquiry

end LanguageClient
