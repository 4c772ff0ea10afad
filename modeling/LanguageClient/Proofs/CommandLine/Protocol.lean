import LanguageClient.Proofs.Client.Etiquette
import LanguageClient.Proofs.CommandLine.Inquiry

set_option autoImplicit false

/-!
The program as a peer. Whatever the server does and whatever fails on the way, the messages of a
session come in the order that the protocol asks for. Nothing that was begun is left open while the
connection is up, unless a printed number is too large and the program breaks off.
-/

namespace LanguageClient

def IdSource.draw (source : IdSource) : Nat → Id
  | 0 => source.next.1
  | count + 1 => source.next.2.draw count

theorem Exit.code_ofResult_eq_zero_iff {identity : Identity} {result : Except Abort Unit} :
    (Exit.ofResult identity result).code = 0 ↔ result = .ok () := by
  cases result with
  | ok => exact iff_of_true rfl rfl
  | error abort => cases abort <;> simp [Exit.ofResult]

namespace Invocation

section Session

variable (invocation : Invocation) (ids : IdSource) (process : UInt32) (root : Path)
  (read : FileReader)

def greeting : Dialogue (Except RequestError Json) :=
  Call.handshake (ids.draw 0) (Uri.ofFolder none root) process

def body (capabilities : Json) : Dialogue (Except Abort Unit) :=
  (invocation.inquiry.answer ⟨ids.draw 1, ids.draw 2⟩ (.ofName invocation.language) root read
    capabilities).run

def farewell : Dialogue (Except RequestError Unit) := Call.shutdownAndExit (ids.draw 3)

theorem session_eq :
    invocation.session ids process root read =
      (greeting ids process root).bind fun greeted =>
        match greeted with
        | .error error =>
          .finish (.error (.failed
            ((Failure.ofRequest error).within "Failed to initialize language server")))
        | .ok capabilities =>
          (invocation.body ids root read capabilities).bind (leave (ids.draw 3)) := rfl

variable {invocation ids process root read} {turns : List Turn} {result : Except Abort Unit}

/-- A run broke off over a number that is too large. -/
def Overflowed (result : Except Abort Unit) : Prop := ∃ site, result = .error (.overflowed site)

/-- What is said behind an inquiry. -/
inductive Leaves (ids : IdSource) (result : Except Abort Unit) : List Turn → Prop where
  | broken (overflowed : Overflowed result) : Leaves ids result []
  | bidden {left : List Turn} {ending : Except RequestError Unit} (whole : ¬ Overflowed result)
      (leaves : (farewell ids).Yields left ending) : Leaves ids result left

theorem exists_farewell_of_yields_part {outcome : Except Abort Unit}
    (yields : (part (ids.draw 3) outcome).Yields turns result) :
    (∃ ending, (farewell ids).Yields turns ending) ∧ result = outcome := by
  obtain ⟨left, ending, last, split, leaves, ended⟩ := Dialogue.yields_bind_iff.mp yields
  have done : last = [] ∧ result = outcome := by
    cases ending with
    | ok => exact Dialogue.yields_finish_iff.mp ended
    | error error => exact Dialogue.yields_finish_iff.mp (Dialogue.yields_record_iff.mp ended)
  rw [split, done.1, List.append_nil]
  exact ⟨⟨ending, leaves⟩, done.2⟩

theorem leaves_of_yields {outcome : Except Abort Unit}
    (yields : (leave (ids.draw 3) outcome).Yields turns result) :
    Leaves ids outcome turns ∧ result = outcome := by
  rcases outcome with (failure | site) | done
  · obtain ⟨⟨ending, leaves⟩, same⟩ := exists_farewell_of_yields_part yields
    exact ⟨.bidden (by simp [Overflowed]) leaves, same⟩
  · obtain ⟨ended, same⟩ := Dialogue.yields_finish_iff.mp yields
    rw [ended]
    exact ⟨.broken ⟨site, rfl⟩, same⟩
  · obtain ⟨⟨ending, leaves⟩, same⟩ := exists_farewell_of_yields_part yields
    exact ⟨.bidden (by simp [Overflowed]) leaves, same⟩

/-- A session is a greeting that fails, or a greeting, its inquiry and what is said behind it. -/
theorem turns_of_yields_session
    (yields : (invocation.session ids process root read).Yields turns result) :
    (∃ error, (greeting ids process root).Yields turns (.error error) ∧
      ∃ failure, result = .error (.failed failure)) ∨
    ∃ greeted capabilities told left, turns = greeted ++ (told ++ left) ∧
      (greeting ids process root).Yields greeted (.ok capabilities) ∧
      (invocation.body ids root read capabilities).Yields told result ∧ Leaves ids result left := by
  rw [session_eq, Dialogue.yields_bind_iff] at yields
  obtain ⟨greeted, outcome, rest, rfl, greets, later⟩ := yields
  cases outcome with
  | error error =>
    obtain ⟨rfl, rfl⟩ := Dialogue.yields_finish_iff.mp later
    rw [List.append_nil]
    exact .inl ⟨error, greets, _, rfl⟩
  | ok capabilities =>
    obtain ⟨told, answer, left, rfl, tells, leaving⟩ := Dialogue.yields_bind_iff.mp later
    obtain ⟨leaves, rfl⟩ := leaves_of_yields leaving
    exact .inr ⟨greeted, capabilities, told, left, rfl, greets, tells, leaves⟩

abbrev Inquires (invocation : Invocation) (ids : IdSource) (root : Path) (read : FileReader)
    (told : List Turn) : Prop :=
  invocation.inquiry.Course ⟨ids.draw 1, ids.draw 2⟩ (.ofName invocation.language) root read told

abbrev opening (ids : IdSource) (process : UInt32) (root : Path) : Request :=
  .handshake (ids.draw 0) (Uri.ofFolder none root) process

theorem messages_of_leaves {left : List Turn} (leaves : Leaves ids result left) :
    Turn.messages left <+: [.request (.shutdown (ids.draw 3)), .notification .exit] := by
  cases leaves with
  | broken => exact List.nil_prefix
  | bidden whole farewell =>
    rcases Call.turns_of_yields_shutdownAndExit farewell with ⟨error, rfl⟩ | ⟨value, sent, rfl⟩
    · exact List.prefix_append [_] _
    · exact List.prefix_refl _

/-- The messages of a session begin those of a whole one. -/
theorem exists_inquires_of_yields
    (yields : (invocation.session ids process root read).Yields turns result) :
    ∃ told, invocation.Inquires ids root read told ∧
      Turn.messages turns <+: .request (opening ids process root) ::
        .notification .initialized ::
        (Turn.messages told ++ [.request (.shutdown (ids.draw 3)), .notification .exit]) := by
  rcases turns_of_yields_session yields with
    ⟨error, greets, -⟩ | ⟨greeted, capabilities, told, left, rfl, greets, tells, leaves⟩
  · obtain ⟨turns, value, tells⟩ := (invocation.body ids root read .null).exists_yields
    obtain ⟨told, texts, course, -⟩ := Inquiry.course_of_yields_answer tells
    refine ⟨told, course, ?_⟩
    rcases Call.yields_handshake_iff.mp greets with
      ⟨error, rfl, -⟩ | ⟨value, ⟨error, rfl, -⟩ | ⟨-, same⟩⟩
    · exact List.prefix_append [_] _
    · exact List.prefix_append [_, _] _
    · cases same
  · obtain ⟨asked, texts, course, rfl⟩ := Inquiry.course_of_yields_answer tells
    refine ⟨asked, course, ?_⟩
    rcases Call.yields_handshake_iff.mp greets with
      ⟨error, -, same⟩ | ⟨value, ⟨error, -, same⟩ | ⟨rfl, -⟩⟩
    · cases same
    · cases same
    · rw [Turn.messages_append, Turn.messages_append, Turn.messages_append, Turn.messages_printed,
        List.append_nil]
      exact (List.prefix_append_right_inj [_, _]).mpr
        ((List.prefix_append_right_inj _).mpr (messages_of_leaves leaves))

/-- What is announced needs an answer: to the greeting, or to the wish to shut down. -/
def Due (ids : IdSource) (process : UInt32) (root : Path) (before : List Turn) (turn : Turn) :
    Prop :=
  (∀ sent, turn = .told .initialized sent →
    ∃ value, .asked (opening ids process root) (.ok value) ∈ before) ∧
  ∀ sent, turn = .told .exit sent →
    ∃ value, .asked (.shutdown (ids.draw 3)) (.ok value) ∈ before

theorem initialized_ne_exit : Notification.initialized ≠ .exit := by
  intro same
  have methods := congrArg Notification.method same
  simp [Notification.initialized, Notification.exit] at methods

theorem ofLifeCycle_opening (answer : Except RequestError Json) :
    Inquiry.OfLifeCycle (.asked (opening ids process root) answer) :=
  ⟨"initialize", rfl, by simp [Inquiry.lifeCycle]⟩

theorem ofLifeCycle_initialized (sent : Except TransportError Unit) :
    Inquiry.OfLifeCycle (.told .initialized sent) :=
  ⟨"initialized", rfl, by simp [Inquiry.lifeCycle]⟩

theorem ofLifeCycle_shutdown (id : Id) (answer : Except RequestError Json) :
    Inquiry.OfLifeCycle (.asked (.shutdown id) answer) :=
  ⟨"shutdown", rfl, by simp [Inquiry.lifeCycle]⟩

theorem ofLifeCycle_exit (sent : Except TransportError Unit) :
    Inquiry.OfLifeCycle (.told .exit sent) :=
  ⟨"exit", rfl, by simp [Inquiry.lifeCycle]⟩

theorem due_of_not_ofLifeCycle {before : List Turn} {turn : Turn}
    (plain : ¬ Inquiry.OfLifeCycle turn) : Due ids process root before turn := by
  constructor
  · intro sent same
    rw [same] at plain
    exact absurd (ofLifeCycle_initialized sent) plain
  · intro sent same
    rw [same] at plain
    exact absurd (ofLifeCycle_exit sent) plain

theorem throughout_due_of_greeting {outcome : Except RequestError Json}
    (greets : (greeting ids process root).Yields turns outcome) :
    Throughout (Due ids process root) turns := by
  rcases Call.yields_handshake_iff.mp greets with
    ⟨error, rfl, -⟩ | ⟨value, ⟨error, rfl, -⟩ | ⟨rfl, -⟩⟩
  · simp [Due]
  · simp [Due, initialized_ne_exit]
  · simp [Due, initialized_ne_exit]

theorem throughout_due_of_leaves (before : List Turn) (leaves : Leaves ids result turns) :
    Throughout (fun earlier => Due ids process root (before ++ earlier)) turns := by
  cases leaves with
  | broken => exact throughout_nil
  | bidden whole farewell =>
    rcases Call.turns_of_yields_shutdownAndExit farewell with ⟨error, rfl⟩ | ⟨value, sent, rfl⟩
    · simp [Due]
    · simp [Due, initialized_ne_exit.symm]

theorem not_ofLifeCycle_of_body {capabilities : Json} {turn : Turn}
    (tells : (invocation.body ids root read capabilities).Yields turns result)
    (mem : turn ∈ turns) : ¬ Inquiry.OfLifeCycle turn := by
  obtain ⟨told, texts, course, rfl⟩ := Inquiry.course_of_yields_answer tells
  rcases List.mem_append.mp mem with asked | printed
  · exact course.not_ofLifeCycle asked
  · obtain ⟨text, -, rfl⟩ := List.mem_map.mp printed
    exact Inquiry.not_ofLifeCycle_printed text

/-- The client is announced only to a server that has answered its greeting, and is told to exit
only by one that has answered the wish to shut down. -/
theorem throughout_due_of_yields
    (yields : (invocation.session ids process root read).Yields turns result) :
    Throughout (Due ids process root) turns := by
  rcases turns_of_yields_session yields with
    ⟨error, greets, -⟩ | ⟨greeted, capabilities, told, left, rfl, greets, tells, leaves⟩
  · exact throughout_due_of_greeting greets
  · rw [throughout_append_iff, throughout_append_iff]
    refine ⟨throughout_due_of_greeting greets, ?_, ?_⟩
    · rintro before turn after rfl
      exact due_of_not_ofLifeCycle (not_ofLifeCycle_of_body tells (by simp))
    · simpa using throughout_due_of_leaves (greeted ++ told) leaves

theorem ofLifeCycle_of_greeting {outcome : Except RequestError Json} {turn : Turn}
    (greets : (greeting ids process root).Yields turns outcome) (mem : turn ∈ turns) :
    Inquiry.OfLifeCycle turn := by
  rcases Call.yields_handshake_iff.mp greets with
    ⟨error, rfl, -⟩ | ⟨value, ⟨error, rfl, -⟩ | ⟨rfl, -⟩⟩ <;>
  simp only [List.mem_cons, List.not_mem_nil, or_false] at mem
  · exact mem ▸ ofLifeCycle_opening _
  · rcases mem with rfl | rfl
    · exact ofLifeCycle_opening _
    · exact ofLifeCycle_initialized _
  · rcases mem with rfl | rfl
    · exact ofLifeCycle_opening _
    · exact ofLifeCycle_initialized _

theorem ofLifeCycle_of_leaves {turn : Turn} (leaves : Leaves ids result turns)
    (mem : turn ∈ turns) : Inquiry.OfLifeCycle turn := by
  cases leaves with
  | broken => cases mem
  | bidden whole farewell =>
    rcases Call.turns_of_yields_shutdownAndExit farewell with ⟨error, rfl⟩ | ⟨value, sent, rfl⟩
    · rw [List.mem_singleton.mp mem]
      exact ofLifeCycle_shutdown _ _
    · simp only [List.mem_cons, List.not_mem_nil, or_false] at mem
      rcases mem with rfl | rfl
      · exact ofLifeCycle_shutdown _ _
      · exact ofLifeCycle_exit _

theorem closes_of_yields
    (yields : (invocation.session ids process root read).Yields turns result) {uri text : String}
    {language : Language} (opened : .told (.didOpen uri language text) (.ok ()) ∈ turns) :
    ∃ closed, [.told (.didOpen uri language text) (.ok ()),
      .told (.didClose uri) closed].Sublist turns := by
  have foreign : ¬ Inquiry.OfLifeCycle (.told (.didOpen uri language text) (.ok ())) := by
    simp [Inquiry.OfLifeCycle, Inquiry.lifeCycle, Turn.method?, Notification.didOpen]
  rcases turns_of_yields_session yields with
    ⟨error, greets, -⟩ | ⟨greeted, capabilities, told, left, rfl, greets, tells, leaves⟩
  · exact absurd (ofLifeCycle_of_greeting greets opened) foreign
  · rw [List.mem_append, List.mem_append] at opened
    rcases opened with early | inside | late
    · exact absurd (ofLifeCycle_of_greeting greets early) foreign
    · obtain ⟨asked, texts, course, rfl⟩ := Inquiry.course_of_yields_answer tells
      have there : .told (.didOpen uri language text) (.ok ()) ∈ asked := by simpa using inside
      obtain ⟨closed, sublist⟩ := course.closes there
      refine ⟨closed, sublist.trans ?_⟩
      exact ((List.sublist_append_left _ _).trans (List.sublist_append_left _ _)).trans
        (List.sublist_append_right _ _)
    · exact absurd (ofLifeCycle_of_leaves leaves late) foreign

theorem shutdown_ne_opening (id : Id) : Request.shutdown id ≠ opening ids process root := by
  intro same
  have methods := congrArg Request.method same
  simp [Request.shutdown, Request.handshake, Request.handshakeWith] at methods

theorem greeted_of_overflowed
    (yields : (invocation.session ids process root read).Yields turns result)
    (overflowed : Overflowed result) :
    (∃ value, .asked (opening ids process root) (.ok value) ∈ turns) ∧
      .told .initialized (.ok ()) ∈ turns := by
  obtain ⟨site, rfl⟩ := overflowed
  rcases turns_of_yields_session yields with
    ⟨error, -, failure, same⟩ | ⟨greeted, capabilities, told, left, rfl, greets, -, -⟩
  · cases same
  · rcases Call.yields_handshake_iff.mp greets with
      ⟨error, -, same⟩ | ⟨value, ⟨error, -, same⟩ | ⟨rfl, -⟩⟩
    · cases same
    · cases same
    · exact ⟨⟨value, by simp⟩, by simp⟩

/-- The wish to shut down goes to exactly those servers that were greeted, unless the run breaks
off. -/
theorem shutdown_mem_iff_of_yields
    (yields : (invocation.session ids process root read).Yields turns result) :
    (∃ answer, .asked (.shutdown (ids.draw 3)) answer ∈ turns) ↔
      (∃ value, .asked (opening ids process root) (.ok value) ∈ turns) ∧
        .told .initialized (.ok ()) ∈ turns ∧ ¬ Overflowed result := by
  rcases turns_of_yields_session yields with
    ⟨error, greets, -⟩ | ⟨greeted, capabilities, told, left, rfl, greets, tells, leaves⟩
  · rcases Call.yields_handshake_iff.mp greets with
      ⟨error, rfl, -⟩ | ⟨value, ⟨error, rfl, -⟩ | ⟨-, same⟩⟩
    · simp [shutdown_ne_opening]
    · simp [shutdown_ne_opening]
    · cases same
  rcases Call.yields_handshake_iff.mp greets with
    ⟨error, -, same⟩ | ⟨value, ⟨error, -, same⟩ | ⟨rfl, -⟩⟩
  · cases same
  · cases same
  cases leaves with
  | broken overflowed =>
    refine iff_of_false ?_ fun greeted => greeted.2.2 overflowed
    intro ⟨answer, mem⟩
    have inside : .asked (.shutdown (ids.draw 3)) answer ∈ told := by
      simpa [shutdown_ne_opening] using mem
    exact not_ofLifeCycle_of_body tells inside (ofLifeCycle_shutdown _ _)
  | bidden whole farewell =>
    refine iff_of_true ?_ ⟨⟨value, by simp⟩, by simp, whole⟩
    rcases Call.turns_of_yields_shutdownAndExit farewell with ⟨error, rfl⟩ | ⟨value, sent, rfl⟩
    · exact ⟨.error error, by simp⟩
    · exact ⟨.ok value, by simp⟩

/-- A session succeeds if it greets the server and its inquiry succeeds, however it ends. -/
theorem ok_iff_of_yields
    (yields : (invocation.session ids process root read).Yields turns result) :
    result = .ok () ↔
      ∃ greeted capabilities told left, turns = greeted ++ (told ++ left) ∧
        (greeting ids process root).Yields greeted (.ok capabilities) ∧
        (invocation.body ids root read capabilities).Yields told (.ok ()) := by
  constructor
  · rintro rfl
    rcases turns_of_yields_session yields with
      ⟨error, -, failure, same⟩ | ⟨greeted, capabilities, told, left, rfl, greets, tells, -⟩
    · cases same
    · exact ⟨greeted, capabilities, told, left, rfl, greets, tells⟩
  · intro ⟨greeted, capabilities, told, left, split, greets, tells⟩
    rw [split] at yields
    rcases turns_of_yields_session yields with
      ⟨error, failed, -⟩ | ⟨first, others, second, last, same, also, answers, -⟩
    · have outcome := (greets.unique failed (List.append_nil _).symm).2
      cases outcome
    · obtain ⟨rfl, outcome⟩ := greets.unique also same
      cases outcome
      exact (tells.unique answers (List.append_cancel_left same)).2.symm

end Session

/-- A run that breaks off leaves a greeted server without a farewell. -/
theorem skips_farewell_of_overflowed {invocation : Invocation} {ids : IdSource} {process : UInt32}
    {root : Path} {read : FileReader} {handlers : Handlers} {moves : List Encounter.Move}
    (finished : ∃ site,
      ((Encounter.begin handlers (invocation.session ids process root read)).run moves).activity =
        .saying (.finish (.error (.overflowed site)))) :
    let turns := ((Encounter.begin handlers
      (invocation.session ids process root read)).run moves).history.turns
    (∃ value, .asked (opening ids process root) (.ok value) ∈ turns) ∧
      .told .initialized (.ok ()) ∈ turns ∧
      ¬ ∃ answer, .asked (.shutdown (ids.draw 3)) answer ∈ turns := by
  intro turns
  obtain ⟨site, broken⟩ := finished
  have yields := ((Encounter.follows_begin handlers
    (invocation.session ids process root read)).run moves).yields_of_finished broken
  obtain ⟨greeted, announced⟩ := greeted_of_overflowed yields ⟨site, rfl⟩
  refine ⟨greeted, announced, fun asked => ?_⟩
  exact ((shutdown_mem_iff_of_yields yields).mp asked).2.2 ⟨site, rfl⟩

/-- The question about a file cannot be sent, and the connection closes during the farewell. -/
example :
    let invocation : Invocation := ⟨[], [], [], "rust", false, .symbols (Utf8.bytes "a.rs")⟩
    let session := invocation.session ⟨0, 0⟩ 1 (Utf8.bytes "/w") fun _ => .ok "fn a() {}"
    let moves : List Encounter.Move := [.proceed, .sent (.ok ()),
      .hear (.response ⟨some (IdSource.draw ⟨0, 0⟩ 0), .ok .null⟩), .proceed,
      .proceed, .sent (.ok ()), .proceed, .proceed, .sent (.ok ()),
      .proceed, .sent (.error (.io "broken pipe")), .proceed, .proceed, .sent (.ok ()),
      .proceed, .sent (.ok ()), .hear (.closed (.closed "server closed its output stream")),
      .proceed, .proceed]
    ((Encounter.begin {} session).run moves).history.turns.filterMap Turn.method? =
      ["initialize", "initialized", "textDocument/didOpen", "textDocument/documentSymbol",
        "textDocument/didClose", "shutdown"] := by
  decide +kernel

end Invocation

end LanguageClient
