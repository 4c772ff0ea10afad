import LanguageClient.Proofs.Packet.Header
import LanguageClient.Proofs.Packet.Segmentation

set_option autoImplicit false

namespace LanguageClient

namespace Split

variable {α : Type} [DecidableEq α] {first second : α}

theorem pair_ne_nil (list : List α) : pair first second list ≠ [] := by
  match list with
  | [] => exact List.cons_ne_nil _ _
  | [value] => exact List.cons_ne_nil _ _
  | value :: next :: rest =>
    rw [pair]
    split
    · exact List.cons_ne_nil _ _
    · split <;> exact List.cons_ne_nil _ _

theorem pair_cons {value : α} {rest : List α} (apart : ¬ (value = first ∧ [second] <+: rest)) :
    pair first second (value :: rest) = (pair first second rest).modifyHead (value :: ·) := by
  cases rest with
  | nil => rfl
  | cons next rest =>
    have other : ¬ (value = first ∧ next = second) := fun both =>
      apart ⟨both.1, by rw [both.2]; exact ⟨rest, rfl⟩⟩
    rw [pair, if_neg other]
    cases pieces : pair first second (next :: rest) with
    | nil => exact absurd pieces (pair_ne_nil _)
    | cons piece later => rfl

theorem pair_append_of_not_mem {front : List α} (absent : first ∉ front) (list : List α) :
    pair first second (front ++ list) = (pair first second list).modifyHead (front ++ ·) := by
  induction front with
  | nil =>
    rw [List.nil_append]
    cases pair first second list <;> rfl
  | cons value front ih =>
    rw [List.mem_cons, not_or] at absent
    rw [List.cons_append, pair_cons fun both => absent.1 both.1.symm, ih absent.2,
      List.modifyHead_modifyHead]
    rfl

theorem pair_append_cons {front rest : List α} (absent : first ∉ front)
    (other : ¬ [second] <+: rest) :
    pair first second (front ++ first :: rest) =
      (pair first second rest).modifyHead fun piece => front ++ first :: piece := by
  rw [pair_append_of_not_mem absent, pair_cons fun both => other both.2, List.modifyHead_modifyHead]
  rfl

theorem pair_of_not_infix {list : List α} (absent : ¬ [first, second] <:+: list) :
    pair first second list = [list] := by
  induction list with
  | nil => rfl
  | cons value rest ih =>
    have later : ¬ [first, second] <:+: rest := fun inside =>
      absent (inside.trans (List.suffix_cons value rest).isInfix)
    have apart : ¬ (value = first ∧ [second] <+: rest) := by
      rintro ⟨rfl, begins⟩
      exact absent (List.cons_prefix_cons.mpr ⟨rfl, begins⟩).isInfix
    rw [pair_cons apart, ih later, List.modifyHead_cons]

/-- A piece that does not hold the pair ends where the pair stands. -/
theorem pair_append_pair (apart : first ≠ second) {front : List α}
    (absent : ¬ [first, second] <:+: front) (rest : List α) :
    pair first second (front ++ first :: second :: rest) = front :: pair first second rest := by
  induction front with
  | nil => rw [List.nil_append, pair, if_pos ⟨rfl, rfl⟩]
  | cons value front ih =>
    have later : ¬ [first, second] <:+: front := fun inside =>
      absent (inside.trans (List.suffix_cons value front).isInfix)
    have other : ¬ (value = first ∧ [second] <+: front ++ first :: second :: rest) := by
      rintro ⟨rfl, begins⟩
      cases front with
      | nil => exact apart (List.cons_prefix_cons.mp begins).1.symm
      | cons next front =>
        rw [(List.cons_prefix_cons.mp begins).1] at absent
        exact absent (List.prefix_append [value, next] front).isInfix
    rw [List.cons_append, pair_cons other, ih later, List.modifyHead_cons]

/-- Pieces that are put together with the pair between them are cut apart again. -/
theorem pair_intercalate (apart : first ≠ second) {piece : List α} {pieces : List (List α)}
    (whole : ∀ each ∈ piece :: pieces, ¬ [first, second] <:+: each) :
    pair first second ([first, second].intercalate (piece :: pieces)) = piece :: pieces := by
  induction pieces generalizing piece with
  | nil =>
    rw [List.intercalate_singleton]
    exact pair_of_not_infix (whole piece (List.mem_cons_self ..))
  | cons next pieces ih =>
    obtain ⟨first, later⟩ := List.forall_mem_cons.mp whole
    rw [List.intercalate_cons_cons, List.append_assoc]
    exact (pair_append_pair apart first _).trans (congrArg _ (ih later))

end Split

namespace Utf8

/-- Lossy reading does not move the ends of lines. -/
theorem pair_decodeLossy (bytes : Bytes) :
    Split.pair '\r' '\n' (decodeLossy bytes) =
      (Split.pair 0x0D 0x0A bytes).map decodeLossy := by
  by_cases returns : 0x0D ∈ bytes
  · obtain ⟨front, rest, rfl, absent⟩ := List.eq_append_cons_of_mem returns
    have shorter : rest.length < (front ++ 0x0D :: rest).length := by
      rw [List.length_append, List.length_cons]
      omega
    have unreturned : '\r' ∉ decodeLossy front := fun mem =>
      absent (mem_of_mem_decodeLossy (by decide) mem)
    have cut (later : Bytes) : decodeLossy (front ++ 0x0D :: later) =
        decodeLossy front ++ '\r' :: decodeLossy later :=
      decodeLossy_append_of_low front (by decide : (0x0D : UInt8).toNat < 0x80) later
    have newline : ['\n'] <+: decodeLossy rest ↔ [0x0A] <+: rest :=
      prefix_decodeLossy_iff (List.forall_mem_singleton.mpr (by decide))
    by_cases ends : [0x0A] <+: rest
    · obtain ⟨later, rfl⟩ := ends
      have step : decodeLossy ([0x0A] ++ later) = '\n' :: decodeLossy later :=
        decodeLossy_cons_of_low (by decide : (0x0A : UInt8).toNat < 0x80) later
      have unbroken : ¬ ['\r', '\n'] <:+: decodeLossy front := fun inside =>
        unreturned (inside.subset (List.mem_cons_self ..))
      have whole : ¬ [0x0D, 0x0A] <:+: front := fun inside =>
        absent (inside.subset (List.mem_cons_self ..))
      rw [cut, step, Split.pair_append_pair (by decide) unbroken, List.singleton_append,
        Split.pair_append_pair (by decide) whole, List.map_cons, pair_decodeLossy later]
    · rw [cut, Split.pair_append_cons unreturned (newline.not.mpr ends),
        Split.pair_append_cons absent ends, pair_decodeLossy rest]
      cases Split.pair 0x0D 0x0A rest with
      | nil => rfl
      | cons piece later =>
        rw [List.map_cons, List.modifyHead_cons, List.modifyHead_cons, List.map_cons, cut]
  · have unreturned : '\r' ∉ decodeLossy bytes := fun mem =>
      returns (mem_of_mem_decodeLossy (by decide) mem)
    rw [Split.pair_of_not_mem unreturned, Split.pair_of_not_mem returns]
    rfl
termination_by bytes.length

end Utf8

namespace Header

/-! ### The line that counts -/

def byteLines (header : Bytes) : List Bytes := Split.pair 0x0D 0x0A header

def IsLine (line : Bytes) : Prop := ¬ [0x0D, 0x0A] <:+: line

instance (line : Bytes) : Decidable (IsLine line) := inferInstanceAs (Decidable (¬ _))

def ofLines (lines : List Bytes) : Bytes := [0x0D, 0x0A].intercalate lines

/-- The first line that begins with the key. -/
inductive Counts (header line : Bytes) : Prop where
  | first {before after : List Bytes} (lines : byteLines header = before ++ line :: after)
      (unkeyed : ∀ other ∈ before, ¬ keyBytes <+: other) (keyed : keyBytes <+: line)

/-- What stands behind the last colon and space of a line, or the whole line if it has none. -/
inductive ValueOf : List Char → List Char → Prop where
  | whole {line : List Char} (none : ¬ [':', ' '] <:+: line) : ValueOf line line
  | behind {front value : List Char} (last : ¬ [':', ' '] <:+: value) :
      ValueOf (front ++ ':' :: ' ' :: value) value

theorem counts_iff {header line : Bytes} :
    Counts header line ↔ (byteLines header).find? (keyBytes.isPrefixOf ·) = some line := by
  have refused (other : Bytes) : (!keyBytes.isPrefixOf other) = true ↔ ¬ keyBytes <+: other := by
    rw [Bool.not_eq_true', Bool.eq_false_iff, Ne, List.isPrefixOf_iff_prefix]
  simp only [List.find?_eq_some_iff_append, List.isPrefixOf_iff_prefix, refused]
  constructor
  · rintro ⟨lines, unkeyed, keyed⟩
    exact ⟨keyed, _, _, lines, unkeyed⟩
  · rintro ⟨keyed, before, after, lines, unkeyed⟩
    exact ⟨lines, unkeyed, keyed⟩

/-- The line that counts is found among the lines of the text. -/
theorem find?_lines (header : Bytes) :
    (lines (Utf8.decodeLossy header)).find? (contentLengthKey.isPrefixOf ·) =
      ((byteLines header).find? (keyBytes.isPrefixOf ·)).map Utf8.decodeLossy := by
  have keyed (line : Bytes) : contentLengthKey.isPrefixOf (Utf8.decodeLossy line) =
      keyBytes.isPrefixOf line := by
    rw [Bool.eq_iff_iff, List.isPrefixOf_iff_prefix, List.isPrefixOf_iff_prefix,
      prefix_key_decodeLossy_iff]
  rw [lines, Utf8.pair_decodeLossy, List.find?_map]
  simp only [Function.comp_def, keyed]
  rfl

theorem byteLines_ofLines {line : Bytes} {lines : List Bytes}
    (whole : ∀ each ∈ line :: lines, IsLine each) :
    byteLines (ofLines (line :: lines)) = line :: lines :=
  Split.pair_intercalate (by decide) whole

/-! ### The value of a line -/

theorem ValueOf.eq_lineValue {line value : List Char} (rule : ValueOf line value) :
    lineValue line = value := by
  cases rule with
  | whole none =>
    rw [lineValue, Split.pair_of_not_infix none]
    rfl
  | @behind front _ last =>
    obtain ⟨piece, pieces, same⟩ := Split.pair_append (by decide : ':' ≠ ' ') value front
    rw [lineValue, same, Split.pair_of_not_infix last, ← List.cons_append, List.getLastD_concat]

theorem exists_valueOf (line : List Char) : ∃ value, ValueOf line value := by
  by_cases cut : [':', ' '] <:+: line
  · obtain ⟨front, rest, same⟩ := cut
    have shorter : rest.length < line.length := by
      rw [← same]
      simp only [List.length_append, List.length_cons, List.length_nil]
      omega
    obtain ⟨value, rule⟩ := exists_valueOf rest
    refine ⟨value, ?_⟩
    cases rule with
    | whole none => exact (List.append_assoc .. ▸ same) ▸ .behind none
    | @behind later _ last =>
      have longer : line = front ++ ':' :: ' ' :: later ++ ':' :: ' ' :: value := by
        rw [← same]
        simp
      rw [longer]
      exact .behind last
  · exact ⟨line, .whole cut⟩
termination_by line.length

theorem valueOf_lineValue (line : List Char) : ValueOf line (lineValue line) := by
  obtain ⟨value, rule⟩ := exists_valueOf line
  rw [rule.eq_lineValue]
  exact rule

/-! ### The rules -/

/-- What a header says of its content: its length, or what is wrong with it. -/
inductive Announces (header : Bytes) : Except HeaderError Nat → Prop where
  | empty (nothing : header = []) : Announces header (.error .empty)
  | missing (something : header ≠ []) (unkeyed : ∀ line ∈ byteLines header, ¬ keyBytes <+: line) :
      Announces header (.error .missingContentLength)
  | length {line : Bytes} {value : List Char} {length : Nat} (counts : Counts header line)
      (behind : ValueOf (Utf8.decodeLossy line) value) (spelled : Decimal.Spells value length)
      (accepted : length ≤ contentLimit) : Announces header (.ok length)
  | tooLarge {line : Bytes} {value : List Char} {length : Nat} (counts : Counts header line)
      (behind : ValueOf (Utf8.decodeLossy line) value) (spelled : Decimal.Spells value length)
      (above : contentLimit < length) (word : length < wordLimit) :
      Announces header (.error (.contentTooLarge length contentLimit))
  | invalid {line : Bytes} {value : List Char} (counts : Counts header line)
      (behind : ValueOf (Utf8.decodeLossy line) value)
      (unspelled : ∀ length, Decimal.Spells value length → wordLimit ≤ length) :
      Announces header (.error (.invalidContentLength (String.ofList value)))

theorem Counts.ne_nil {header line : Bytes} (counts : Counts header line) : header ≠ [] := by
  rintro rfl
  cases counts_iff.mp counts

theorem Counts.declared_eq {header line : Bytes} (counts : Counts header line) :
    Segment.declared header =
      match Decimal.below? wordLimit (lineValue (Utf8.decodeLossy line)) with
      | none => .error (.invalidContentLength (String.ofList (lineValue (Utf8.decodeLossy line))))
      | some length =>
        if contentLimit < length then .error (.contentTooLarge length contentLimit)
        else .ok length := by
  have something : ¬ header.isEmpty = true := by simpa using counts.ne_nil
  rw [Segment.declared, if_neg something, contentLength, find?_lines, counts_iff.mp counts]
  rfl

theorem Announces.declared_eq {header : Bytes} {outcome : Except HeaderError Nat}
    (rule : Announces header outcome) : Segment.declared header = outcome := by
  cases rule with
  | empty nothing =>
    rw [nothing]
    rfl
  | missing something unkeyed =>
    have nonempty : ¬ header.isEmpty = true := by simpa using something
    have absent : (byteLines header).find? (keyBytes.isPrefixOf ·) = none := by
      rw [List.find?_eq_none]
      intro line mem keyed
      exact unkeyed line mem (List.isPrefixOf_iff_prefix.mp keyed)
    rw [Segment.declared, if_neg nonempty, contentLength, find?_lines, absent]
    rfl
  | length counts behind spelled accepted =>
    have limits : contentLimit < wordLimit := by decide
    have found := Decimal.below?_eq_some_iff.mpr ⟨spelled, Nat.lt_of_le_of_lt accepted limits⟩
    rw [counts.declared_eq, behind.eq_lineValue, found]
    exact if_neg (Nat.not_lt.mpr accepted)
  | tooLarge counts behind spelled above word =>
    rw [counts.declared_eq, behind.eq_lineValue, Decimal.below?_eq_some_iff.mpr ⟨spelled, word⟩]
    exact if_pos above
  | @invalid line value counts behind unspelled =>
    have refused : Decimal.below? wordLimit value = none := by
      rw [Option.eq_none_iff_forall_not_mem]
      intro length found
      obtain ⟨spelled, word⟩ := Decimal.below?_eq_some_iff.mp found
      exact absurd word (Nat.not_lt.mpr (unspelled length spelled))
    rw [counts.declared_eq, behind.eq_lineValue, refused]

/-- Every header falls under a rule. -/
theorem announces_declared (header : Bytes) : Announces header (Segment.declared header) := by
  by_cases nothing : header = []
  · have same : Segment.declared header = .error .empty := (Announces.empty nothing).declared_eq
    rw [same]
    exact .empty nothing
  · cases found : (byteLines header).find? (keyBytes.isPrefixOf ·) with
    | none =>
      have unkeyed : ∀ line ∈ byteLines header, ¬ keyBytes <+: line := by
        intro line mem keyed
        exact List.find?_eq_none.mp found line mem (List.isPrefixOf_iff_prefix.mpr keyed)
      rw [(Announces.missing nothing unkeyed).declared_eq]
      exact .missing nothing unkeyed
    | some line =>
      have counts := counts_iff.mpr found
      have behind := valueOf_lineValue (Utf8.decodeLossy line)
      rw [counts.declared_eq]
      cases read : Decimal.below? wordLimit (lineValue (Utf8.decodeLossy line)) with
      | none =>
        refine .invalid counts behind fun length spelled => Nat.le_of_not_lt fun word => ?_
        rw [Decimal.below?_eq_some_iff.mpr ⟨spelled, word⟩] at read
        cases read
      | some length =>
        obtain ⟨spelled, word⟩ := Decimal.below?_eq_some_iff.mp read
        dsimp only
        split
        · rename_i above
          exact .tooLarge counts behind spelled above word
        · rename_i accepted
          exact .length counts behind spelled (Nat.le_of_not_lt accepted)

theorem declared_eq_iff_announces {header : Bytes} {outcome : Except HeaderError Nat} :
    Segment.declared header = outcome ↔ Announces header outcome := by
  constructor
  · rintro rfl
    exact announces_declared header
  · exact Announces.declared_eq

end Header

namespace Segment

variable {header body : Bytes}

theorem unwrap_eq (first : FirstSeparator (header ++ Header.separator ++ body) header.length) :
    unwrap (header ++ Header.separator ++ body) = (declared header).map fun length =>
      if body.length < length then none else some (header, body.take length) := by
  rw [unwrap, first?, firstSeparator_iff.mp first]
  dsimp only
  cases declared header with
  | error error => rfl
  | ok length => by_cases short : body.length < length <;> simp [short, Except.map]

/-- The header of a segment announces just what stands behind it. -/
def Announced : Segment → Prop
  | .unusable header error => Header.Announces header (.error error)
  | .framed header content => Header.Announces header (.ok content.length)

theorem fits_iff_announced {segment : Segment} : segment.Fits ↔ segment.Announced := by
  cases segment with
  | unusable header error => exact fits_unusable_iff.trans Header.declared_eq_iff_announces
  | framed header content => exact fits_framed_iff.trans Header.declared_eq_iff_announces

/-- No separator has come yet, or less content than the header announces. -/
inductive Waits : Bytes → Prop where
  | headless {rest : Bytes} (unseparated : ¬ Header.separator <:+: rest) : Waits rest
  | short {header body : Bytes} {length : Nat}
      (first : FirstSeparator (header ++ Header.separator ++ body) header.length)
      (announces : Header.Announces header (.ok length)) (few : body.length < length) :
      Waits (header ++ Header.separator ++ body)

theorem unwrap_eq_none_iff_waits {rest : Bytes} : unwrap rest = .ok none ↔ Waits rest := by
  constructor
  · intro incomplete
    cases found : Split.first? Header.separator rest with
    | none => exact .headless (Split.first?_eq_none_iff.mp found)
    | some parts =>
      obtain ⟨header, body⟩ := parts
      obtain rfl := Split.eq_append_of_first? found
      have first := firstSeparator_iff.mpr found
      rw [unwrap_eq first] at incomplete
      cases declares : declared header with
      | error error =>
        rw [declares] at incomplete
        cases incomplete
      | ok length =>
        rw [declares] at incomplete
        by_cases few : body.length < length
        · exact .short first (Header.declared_eq_iff_announces.mp declares) few
        · simp [Except.map, few] at incomplete
  · intro waits
    cases waits with
    | headless unseparated =>
      rw [unwrap, first?, Split.first?_eq_none_iff.mpr unseparated]
    | short first announces few =>
      rw [unwrap_eq first, announces.declared_eq, Except.map, if_pos few]

/-- A segmentation by the rules for headers alone. -/
inductive Ruled : Bytes → List Segment → Bytes → Prop where
  | rest {rest : Bytes} (waits : Waits rest) : Ruled rest [] rest
  | segment {segment : Segment} {later : List Segment} {stream rest : Bytes}
      (announced : segment.Announced)
      (first : FirstSeparator (segment.bytes ++ stream) segment.header.length)
      (goes : Ruled stream later rest) : Ruled (segment.bytes ++ stream) (segment :: later) rest

theorem segmentation_iff_ruled {stream rest : Bytes} {segments : List Segment} :
    Segmentation stream segments rest ↔ Ruled stream segments rest := by
  constructor
  · intro cut
    induction cut with
    | incomplete waits => exact .rest (unwrap_eq_none_iff_waits.mp waits)
    | segment fits first _ ih => exact .segment (fits_iff_announced.mp fits) first ih
  · intro ruled
    induction ruled with
    | rest waits => exact .incomplete (unwrap_eq_none_iff_waits.mpr waits)
    | segment announced first _ ih => exact .segment (fits_iff_announced.mpr announced) first ih

theorem declared_eq_of_counts {other line : Bytes} (counts : Header.Counts header line)
    (also : Header.Counts other line) : declared other = declared header := by
  rw [counts.declared_eq, also.declared_eq]

/-- What is read from bytes with a header is what the rules say of this header, and if it is a
length, so many bytes of content. Its lines can be changed, added and taken away, whatever bytes
they hold: as long as the same line counts, and the header ends where the first separator stands,
the same error is reported or the same content read. -/
theorem unwrap_iff_announces
    (first : FirstSeparator (header ++ Header.separator ++ body) header.length) :
    (∀ outcome, declared header = outcome ↔ Header.Announces header outcome) ∧
    (∀ error, unwrap (header ++ Header.separator ++ body) = .error error ↔
      Header.Announces header (.error error)) ∧
    (∀ length, Header.Announces header (.ok length) →
      unwrap (header ++ Header.separator ++ body) =
        .ok (if body.length < length then none else some (header, body.take length))) ∧
    ∀ line before after, Header.Counts header line →
      (∀ other ∈ before, ¬ Header.keyBytes <+: other) →
      (∀ each ∈ before ++ line :: after, Header.IsLine each) →
      ∀ edited, edited = Header.ofLines (before ++ line :: after) →
        FirstSeparator (edited ++ Header.separator ++ body) edited.length →
        declared edited = declared header ∧
          unwrap (edited ++ Header.separator ++ body) =
            (unwrap (header ++ Header.separator ++ body)).map
              (Option.map fun (_, content) => (edited, content)) := by
  refine ⟨fun outcome => Header.declared_eq_iff_announces, fun error => ?_, fun length rule => ?_,
    ?_⟩
  · rw [← Header.declared_eq_iff_announces, unwrap_eq first]
    cases declared header with
    | error cause => simp only [Except.map, Except.error.injEq]
    | ok length => simp only [Except.map, reduceCtorEq]
  · rw [unwrap_eq first, rule.declared_eq]
    rfl
  · rintro line before after counts unkeyed whole edited rfl again
    have keyed : Header.keyBytes <+: line := by
      obtain ⟨-, -, keyed⟩ := counts
      exact keyed
    have lines : Header.byteLines (Header.ofLines (before ++ line :: after)) =
        before ++ line :: after := by
      cases before with
      | nil => exact Header.byteLines_ofLines whole
      | cons other before => exact Header.byteLines_ofLines whole
    have same := declared_eq_of_counts counts (.first lines unkeyed keyed)
    refine ⟨same, ?_⟩
    rw [unwrap_eq first, unwrap_eq again, same]
    cases declared header with
    | error error => rfl
    | ok length =>
      dsimp only [Except.map]
      split <;> rfl

/-- A header with an ill-formed line before the one that counts, in which a sign and zeros stand
behind the last of two colons, and with another length behind it; and the same line between two
others. -/
theorem unwrap_of_edited_lines :
    let line := Utf8.bytes "Content-Length: 9: +007"
    let header := Header.ofLines [0x58 :: 0x3A :: [0xFF], line, Utf8.bytes "Content-Length: 5"]
    let edited := Header.ofLines [Utf8.bytes "\r", line, [0xC3, 0x0A]]
    let body := Utf8.bytes "[1,2,3]\r\n\r\n"
    Header.Announces header (.ok 7) ∧
      unwrap (header ++ Header.separator ++ body) = .ok (some (header, Utf8.bytes "[1,2,3]")) ∧
      unwrap (edited ++ Header.separator ++ body) = .ok (some (edited, Utf8.bytes "[1,2,3]")) := by
  intro line header edited body
  have first : FirstSeparator (header ++ Header.separator ++ body) header.length :=
    firstSeparator_iff.mpr (by decide +kernel)
  have again : FirstSeparator (edited ++ Header.separator ++ body) edited.length :=
    firstSeparator_iff.mpr (by decide +kernel)
  have counts : Header.Counts header line := Header.counts_iff.mpr (by decide +kernel)
  obtain ⟨rules, -, reads, edits⟩ := unwrap_iff_announces first
  have seven : Header.Announces header (.ok 7) := (rules _).mp (by decide +kernel)
  have content := reads 7 seven
  have kept := (edits line [Utf8.bytes "\r"] [[0xC3, 0x0A]] counts (by decide +kernel)
    (by decide +kernel) edited rfl again).2
  rw [content] at kept
  exact ⟨seven, content, kept⟩

end Segment

namespace Detector

/-- The rules for headers cut a stream in exactly one way, and a new detector reports the segments
and keeps the rest. -/
theorem existsUnique_ruled (stream : Bytes) :
    ∃ segments rest, Segment.Ruled stream segments rest ∧
      (∀ others left, Segment.Ruled stream others left → others = segments ∧ left = rest) ∧
      List.Forall₂ Segment.Reports segments (detect {} stream).1 ∧
      (detect {} stream).2.buffer = rest := by
  have cut : Segment.Segmentation stream (Segment.scan stream).1 (Segment.scan stream).2 :=
    Segment.segmentation_iff_scan.mpr rfl
  obtain ⟨-, reports, kept⟩ := detect_of_segmentation cut
  refine ⟨_, _, Segment.segmentation_iff_ruled.mp cut, ?_, reports, kept⟩
  intro others left ruled
  rw [Segment.segmentation_iff_scan.mp (Segment.segmentation_iff_ruled.mpr ruled)]
  exact ⟨rfl, rfl⟩

end Detector

end LanguageClient
