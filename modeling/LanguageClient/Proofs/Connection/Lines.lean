import LanguageClient.Connection.ErrorOutput
import LanguageClient.Proofs.Text.Lossless
import LanguageClient.Proofs.Text.Split

set_option autoImplicit false

/-!
What is reported of a server's error output. The reads make no difference: the lines are reported
in their order, each as the text that it writes, up to the first line that writes none. That line
ends the forwarding, so all lines with a text are reported if and only if none of them stands
behind a line without one.
-/

namespace LanguageClient

namespace ErrorOutput

/-- A stream as lines. A newline ends a line and takes a carriage return before it along; what
follows the last newline is a line as it is, if it is not empty. -/
inductive Lines : Bytes → List Bytes → Prop where
  | empty : Lines [] []
  | unterminated {line : Bytes} (nonempty : line ≠ []) (inside : newline ∉ line) :
      Lines line [line]
  | terminated {line stream : Bytes} {later : List Bytes} (inside : newline ∉ line)
      (further : Lines stream later) :
      Lines (line ++ newline :: stream) (withoutReturn line :: later)

def IsText (line : Bytes) : Prop := ∃ text, line = Utf8.bytes text

def takeAll : ErrorOutput → List Bytes → Emission × ErrorOutput
  | output, [] => ({}, output)
  | output, chunk :: rest =>
    let (emission, next) := output.take chunk
    let (later, last) := takeAll next rest
    (emission ++ later, last)

def heard (reads : List Bytes) : List Event :=
  let (emission, last) := takeAll {} reads
  emission.events ++ (last.finish .closed).1.events

def reported : List Bytes → List Event
  | [] => []
  | line :: later =>
    match Utf8.text? line with
    | some text => .errorOutput text :: reported later
    | none => []

theorem isText_iff {line : Bytes} : IsText line ↔ ∃ text, Utf8.text? line = some text :=
  exists_congr fun _ => Utf8.text?_eq_some_iff.symm

theorem text?_eq_none_iff {line : Bytes} : Utf8.text? line = none ↔ ¬ IsText line := by
  rw [isText_iff]
  cases read : Utf8.text? line with
  | none => simp
  | some text => simp

/-! ### Lines -/

/-- Where a line ends is settled by the first newline. -/
theorem lines_terminated_iff {line stream : Bytes} {lines : List Bytes} (inside : newline ∉ line) :
    Lines (line ++ newline :: stream) lines ↔
      ∃ later, lines = withoutReturn line :: later ∧ Lines stream later := by
  constructor
  · intro cut
    generalize whole : line ++ newline :: stream = bytes at cut
    cases cut with
    | empty => simp at whole
    | unterminated _ other =>
      apply absurd _ other
      rw [← whole]
      simp
    | terminated other further =>
      have pieces := congrArg (Split.on newline) whole
      simp only [Split.on_eq_splitOn, List.splitOn_append_cons_self_of_not_mem inside,
        List.splitOn_append_cons_self_of_not_mem other, List.cons.injEq] at pieces
      have same := pieces.1
      subst same
      have rest := List.append_cancel_left whole
      rw [(List.cons.inj rest).2]
      exact ⟨_, rfl, further⟩
  · rintro ⟨later, rfl, further⟩
    exact .terminated inside further

theorem lines_unterminated_iff {line : Bytes} {lines : List Bytes} (inside : newline ∉ line) :
    Lines line lines ↔ lines = if line = [] then [] else [line] := by
  constructor
  · intro cut
    cases cut with
    | empty => rfl
    | unterminated nonempty _ => rw [if_neg nonempty]
    | terminated _ _ => simp at inside
  · intro same
    by_cases nothing : line = []
    · rw [same, if_pos nothing, nothing]
      exact .empty
    · rw [same, if_neg nothing]
      exact .unterminated nothing inside

theorem exists_lines_of_pieces {pieces : List Bytes} (apart : ∀ piece ∈ pieces, newline ∉ piece) :
    ∃ lines, Lines ([newline].intercalate pieces) lines := by
  induction pieces with
  | nil => exact ⟨[], .empty⟩
  | cons line rest ih =>
    obtain ⟨inside, others⟩ := List.forall_mem_cons.mp apart
    cases rest with
    | nil =>
      rw [List.intercalate_singleton]
      exact ⟨_, (lines_unterminated_iff inside).mpr rfl⟩
    | cons next rest =>
      obtain ⟨later, further⟩ := ih others
      rw [List.intercalate_cons_cons, List.append_assoc]
      exact ⟨_, .terminated inside further⟩

theorem exists_lines (stream : Bytes) : ∃ lines, Lines stream lines := by
  have pieces : ∃ lines, Lines ([newline].intercalate (Split.on newline stream)) lines :=
    exists_lines_of_pieces fun _ => Split.not_mem_of_mem_on
  rwa [Split.intercalate_on] at pieces

theorem Lines.unique {stream : Bytes} {lines others : List Bytes} (cut : Lines stream lines)
    (again : Lines stream others) : others = lines := by
  induction cut generalizing others with
  | empty => exact (lines_unterminated_iff List.not_mem_nil).mp again
  | unterminated nonempty inside =>
    have same := (lines_unterminated_iff inside).mp again
    rwa [if_neg nonempty] at same
  | terminated inside _ ih =>
    obtain ⟨later, same, further⟩ := (lines_terminated_iff inside).mp again
    rw [same, ih further]

/-! ### Forwarding -/

theorem events_of_ended (reads : List Bytes) :
    (takeAll ended reads).1.events ++ ((takeAll ended reads).2.finish .closed).1.events = [] := by
  have stays : takeAll ended reads = ({}, ended) := by
    induction reads with
    | nil => rfl
    | cons chunk rest ih =>
      have now : ended.take chunk = ({}, ended) := rfl
      simp only [takeAll, now, ih]
      rfl
  rw [stays]
  rfl

/-- The pieces before the last one are lines, and the last one begins what follows them. Either all
these lines are reported and the last piece waits, or one of them is no text and nothing follows. -/
theorem reportLines_cases {pieces : List Bytes} (apart : ∀ piece ∈ pieces, newline ∉ piece)
    (nonempty : pieces ≠ []) {more : Bytes} {lines : List Bytes}
    (cut : Lines ([newline].intercalate pieces ++ more) lines) :
    ((reportLines pieces).2 = ended ∧ reported lines = (reportLines pieces).1.events) ∨
      ∃ line left, (reportLines pieces).2 = ⟨line, true⟩ ∧ newline ∉ line ∧
        Lines (line ++ more) left ∧
        reported lines = (reportLines pieces).1.events ++ reported left := by
  induction pieces generalizing lines with
  | nil => exact absurd rfl nonempty
  | cons line rest ih =>
    obtain ⟨inside, others⟩ := List.forall_mem_cons.mp apart
    cases rest with
    | nil =>
      rw [List.intercalate_singleton] at cut
      exact Or.inr ⟨line, lines, rfl, inside, cut, rfl⟩
    | cons next rest =>
      have whole : [newline].intercalate (line :: next :: rest) ++ more =
          line ++ newline :: ([newline].intercalate (next :: rest) ++ more) := by
        simp [List.intercalate_cons_cons]
      rw [whole, lines_terminated_iff inside] at cut
      obtain ⟨later, same, further⟩ := cut
      rw [same, reported, reportLines]
      cases read : Utf8.text? (withoutReturn line) with
      | none => exact Or.inl ⟨rfl, rfl⟩
      | some text =>
        rcases ih others (List.cons_ne_nil _ _) further with
          ⟨stopped, made⟩ | ⟨last, left, waits, outside, onward, made⟩
        · refine Or.inl ⟨stopped, ?_⟩
          rw [made]
          rfl
        · refine Or.inr ⟨last, left, waits, outside, onward, ?_⟩
          rw [made]
          rfl

/-- What is heard hangs on the lines of what waits and of what is still to be read. -/
theorem events_takeAll {line : Bytes} {reads : List Bytes} {lines : List Bytes}
    (inside : newline ∉ line) (cut : Lines (line ++ reads.flatten) lines) :
    (takeAll ⟨line, true⟩ reads).1.events ++
      ((takeAll ⟨line, true⟩ reads).2.finish .closed).1.events = reported lines := by
  -- On the reads. What waits never holds a newline, so it is the beginning of the next line.
  induction reads generalizing line lines with
  | nil =>
    rw [List.flatten_nil, List.append_nil, lines_unterminated_iff inside] at cut
    by_cases nothing : line = []
    · simp [takeAll, finish, cut, nothing, reported]
    · cases read : Utf8.text? line with
      | none => simp [takeAll, finish, cut, nothing, reported, read]
      | some text => simp [takeAll, finish, cut, nothing, reported, read, Emission.ofEvent]
  | cons chunk rest ih =>
    have taken : (⟨line, true⟩ : ErrorOutput).take chunk =
        reportLines (Split.on newline (line ++ chunk)) := rfl
    have whole : line ++ (chunk :: rest).flatten =
        [newline].intercalate (Split.on newline (line ++ chunk)) ++ rest.flatten := by
      rw [Split.intercalate_on, List.flatten_cons, List.append_assoc]
    rw [whole] at cut
    simp only [takeAll, taken, Emission.events_append, List.append_assoc]
    rcases reportLines_cases (fun _ => Split.not_mem_of_mem_on) (Split.on_ne_nil _ _) cut with
      ⟨stopped, made⟩ | ⟨last, left, waits, outside, onward, made⟩
    · rw [stopped, events_of_ended, made, List.append_nil]
    · rw [waits, ih outside onward, made]

theorem heard_eq_reported {reads : List Bytes} {lines : List Bytes}
    (cut : Lines reads.flatten lines) : heard reads = reported lines :=
  events_takeAll List.not_mem_nil cut

theorem exists_texts_of_reported (lines : List Bytes) :
    ∃ (texts : List String) (unread : List Bytes), lines = texts.map Utf8.bytes ++ unread ∧
      (∀ line ∈ unread.head?, ¬ IsText line) ∧ reported lines = texts.map .errorOutput := by
  induction lines with
  | nil => exact ⟨[], [], rfl, nofun, rfl⟩
  | cons line later ih =>
    obtain ⟨texts, unread, whole, refused, made⟩ := ih
    rw [reported]
    cases read : Utf8.text? line with
    | none =>
      refine ⟨[], line :: later, rfl, ?_, rfl⟩
      intro first same
      rw [← Option.some.inj same, ← text?_eq_none_iff]
      exact read
    | some text =>
      have written : line = Utf8.bytes text := Utf8.text?_eq_some_iff.mp read
      refine ⟨text :: texts, unread, ?_, refused, ?_⟩
      · rw [List.map_cons, List.cons_append, ← whole, ← written]
      · rw [List.map_cons, ← made]

theorem reported_eq_texts_iff {lines : List Bytes} :
    reported lines = (lines.filterMap Utf8.text?).map .errorOutput ↔
      lines.Pairwise fun earlier later => IsText later → IsText earlier := by
  induction lines with
  | nil => simp [reported]
  | cons line later ih =>
    rw [reported, List.pairwise_cons, ← ih]
    cases read : Utf8.text? line with
    | some text =>
      have first : IsText line := isText_iff.mpr ⟨text, read⟩
      simp [read, first]
    | none =>
      have first : ¬ IsText line := text?_eq_none_iff.mp read
      simp only [List.filterMap_cons, read, first, imp_false]
      constructor
      · intro nothing
        have unread : ∀ other ∈ later, Utf8.text? other = none := by
          simpa using nothing.symm
        refine ⟨fun other mem => text?_eq_none_iff.mp (unread other mem), ?_⟩
        rw [ih]
        exact List.pairwise_of_forall_mem_list fun _ _ other mem isText =>
          absurd isText (text?_eq_none_iff.mp (unread other mem))
      · rintro ⟨textless, -⟩
        have empty : later.filterMap Utf8.text? = [] :=
          List.filterMap_eq_nil_iff.mpr fun other mem => text?_eq_none_iff.mpr (textless other mem)
        rw [empty]
        rfl

/-- Whatever reads a stream arrives in, it has lines in just one way, and what is heard of it are
the texts of its lines up to the first that is none. So each line that is a text is reported, once
and in its place, if and only if no line that is a text stands behind one that is none. -/
theorem texts_reported_iff (reads : List Bytes) :
    ∃ lines, Lines reads.flatten lines ∧
      (∀ others, Lines reads.flatten others → others = lines) ∧
      (∃ (texts : List String) (unread : List Bytes), lines = texts.map Utf8.bytes ++ unread ∧
        (∀ line ∈ unread.head?, ¬ IsText line) ∧ heard reads = texts.map .errorOutput) ∧
      (heard reads = (lines.filterMap Utf8.text?).map .errorOutput ↔
        lines.Pairwise fun earlier later => IsText later → IsText earlier) := by
  obtain ⟨lines, cut⟩ := exists_lines reads.flatten
  have made := heard_eq_reported cut
  refine ⟨lines, cut, fun others again => cut.unique again, ?_, ?_⟩
  · rw [made]
    exact exists_texts_of_reported lines
  · rw [made]
    exact reported_eq_texts_iff

/-- One byte that writes no text costs the line behind it. -/
theorem text_lost_behind_invalid_line :
    let stream := Utf8.bytes "first\n" ++ 0xFF :: Utf8.bytes "\nlast\n"
    Lines stream [Utf8.bytes "first", [0xFF], Utf8.bytes "last"] ∧
      heard [stream] = [.errorOutput "first"] ∧
      ¬ ∀ (reads lines : List Bytes), Lines reads.flatten lines →
        heard reads = (lines.filterMap Utf8.text?).map .errorOutput := by
  intro stream
  have third : Lines (Utf8.bytes "last" ++ newline :: []) [Utf8.bytes "last"] :=
    .terminated (by decide +kernel) .empty
  have second : Lines ([0xFF] ++ newline :: Utf8.bytes "last\n") [[0xFF], Utf8.bytes "last"] :=
    .terminated (by decide +kernel) third
  have cut : Lines stream [Utf8.bytes "first", [0xFF], Utf8.bytes "last"] := by
    have first : Lines (Utf8.bytes "first" ++ newline :: ([0xFF] ++ newline :: Utf8.bytes "last\n"))
        [Utf8.bytes "first", [0xFF], Utf8.bytes "last"] := .terminated (by decide +kernel) second
    exact first
  have silent : heard [stream] = [.errorOutput "first"] := by decide +kernel
  refine ⟨cut, silent, ?_⟩
  intro complete
  have both := complete [stream] _ ((List.append_nil stream).symm ▸ cut)
  have texts : [Utf8.bytes "first", [0xFF], Utf8.bytes "last"].filterMap Utf8.text? =
      ["first", "last"] := by decide +kernel
  rw [silent, texts] at both
  cases both

end ErrorOutput

end LanguageClient
