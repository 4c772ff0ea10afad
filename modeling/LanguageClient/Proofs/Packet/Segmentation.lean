import LanguageClient.Proofs.Packet.Fragmentation
import Mathlib.Data.List.Forall2

set_option autoImplicit false

/-!
Every stream has one segmentation. It is stated without a reader, by where the first separator
stands and what the header before it declares, and the reader finds it: its reports are those of
the segments, in their order, and what it keeps is what no segment takes.
-/

namespace LanguageClient

namespace Split

variable {α : Type} [DecidableEq α] {pattern list before after : List α}

theorem length_le_of_first? (found : first? pattern list = some (before, after)) {place : Nat}
    (stands : pattern <+: list.drop place) : before.length ≤ place := by
  obtain ⟨rest, same⟩ := stands
  have whole : list = list.take place ++ pattern ++ rest := by
    rw [List.append_assoc, same, List.take_append_drop]
  cases cut : first? pattern (list.take place ++ pattern) with
  | none => exact absurd (List.suffix_append _ _).isInfix (first?_eq_none_iff.mp cut)
  | some parts =>
    obtain ⟨front, back⟩ := parts
    have longer := first?_append rest cut
    rw [← whole, found] at longer
    cases longer
    have lengths := congrArg List.length (eq_append_of_first? cut)
    have taken := List.length_take_le place list
    simp only [List.length_append] at lengths
    omega

/-- The first occurrence is the one that has none before it. -/
theorem first?_eq_some_iff :
    first? pattern list = some (before, after) ↔
      list = before ++ pattern ++ after ∧
        ∀ earlier < before.length, ¬ pattern <+: list.drop earlier := by
  constructor
  · intro found
    refine ⟨eq_append_of_first? found, fun earlier less stands => ?_⟩
    exact absurd (length_le_of_first? found stands) (Nat.not_le.mpr less)
  · rintro ⟨whole, earliest⟩
    have stands {front back : List α} (cut : list = front ++ pattern ++ back) :
        pattern <+: list.drop front.length := by
      rw [cut, List.append_assoc, List.drop_left]
      exact List.prefix_append _ _
    cases found : first? pattern list with
    | none => exact absurd ⟨before, after, whole.symm⟩ (first?_eq_none_iff.mp found)
    | some parts =>
      obtain ⟨front, back⟩ := parts
      have again := eq_append_of_first? found
      have upper : front.length ≤ before.length := length_le_of_first? found (stands whole)
      have lower : before.length ≤ front.length :=
        Nat.le_of_not_lt fun less => earliest _ less (stands again)
      rw [whole, List.append_assoc, List.append_assoc] at again
      obtain ⟨rfl, tails⟩ := List.append_inj again (Nat.le_antisymm lower upper)
      rw [List.append_cancel_left tails]

end Split

namespace Segment

/-- The separator stands at a place of the bytes, and at none before it. -/
structure FirstSeparator (bytes : Bytes) (place : Nat) : Prop where
  here : Header.separator <+: bytes.drop place
  earliest : ∀ earlier < place, ¬ Header.separator <+: bytes.drop earlier

def header : Segment → Bytes
  | .unusable header _ | .framed header _ => header

/-- A header without a usable length stands alone, and one with a length stands before so many
bytes. -/
inductive Fits : Segment → Prop where
  | empty : Fits (.unusable [] .empty)
  | undeclared {header : Bytes} {error : HeaderError} (nonempty : header ≠ [])
      (declares : Header.contentLength header = .error error) : Fits (.unusable header error)
  | framed {header content : Bytes} (nonempty : header ≠ [])
      (declares : Header.contentLength header = .ok content.length)
      (accepted : content.length ≤ Header.contentLimit) : Fits (.framed header content)

/-- A stream as segments and a rest. Where a segment ends hangs on all that follows it, since its
separator is the first one of the stream from there on. -/
inductive Segmentation : Bytes → List Segment → Bytes → Prop where
  | incomplete {rest : Bytes} (waits : unwrap rest = .ok none) : Segmentation rest [] rest
  | segment {segment : Segment} {later : List Segment} {stream rest : Bytes}
      (fits : segment.Fits) (first : FirstSeparator (segment.bytes ++ stream) segment.header.length)
      (goes : Segmentation stream later rest) :
      Segmentation (segment.bytes ++ stream) (segment :: later) rest

inductive Reports : Segment → Detected → Prop where
  | unusable {header : Bytes} {error : HeaderError} :
      Reports (.unusable header error) (.error (.header error))
  | packet {header content : Bytes} {message : Message}
      (decoded : Message.decode content = .ok message) :
      Reports (.framed header content) (.ok ⟨header, content⟩)
  | invalid {header content : Bytes} {cause : ProtocolError}
      (refused : Message.decode content = .error cause) :
      Reports (.framed header content) (.error (.invalidContent cause))

theorem unwrap_eq_none_iff {data : Bytes} : unwrap data = .ok none ↔ first? data = none := by
  unfold unwrap
  split
  · rename_i missing
    simp [missing]
  · rename_i found
    simp [found]
  · rename_i found
    simp [found]

theorem contentLength_le {header : Bytes} {length : Nat}
    (declares : Header.contentLength header = .ok length) : length ≤ Header.contentLimit := by
  unfold Header.contentLength at declares
  split at declares
  · cases declares
  · split at declares
    · cases declares
    · split at declares
      · cases declares
      · rename_i accepted
        cases declares
        exact Nat.le_of_not_lt accepted

theorem fits_unusable_iff {header : Bytes} {error : HeaderError} :
    Fits (.unusable header error) ↔ declared header = .error error := by
  cases header with
  | nil =>
    constructor
    · rintro (_ | ⟨nonempty, -⟩)
      · rfl
      · exact absurd rfl nonempty
    · rintro ⟨⟩
      exact .empty
  | cons byte rest =>
    constructor
    · rintro (_ | ⟨-, declares⟩)
      exact declares
    · exact fun declares => .undeclared (List.cons_ne_nil _ _) declares

theorem fits_framed_iff {header content : Bytes} :
    Fits (.framed header content) ↔ declared header = .ok content.length := by
  cases header with
  | nil =>
    constructor
    · rintro (⟨⟩ | ⟨⟩ | ⟨nonempty, -, -⟩)
      exact absurd rfl nonempty
    · rintro ⟨⟩
  | cons byte rest =>
    constructor
    · rintro (⟨⟩ | ⟨⟩ | ⟨-, declares, -⟩)
      exact declares
    · exact fun declares => .framed (List.cons_ne_nil _ _) declares (contentLength_le declares)

theorem firstSeparator_iff {header body : Bytes} :
    FirstSeparator (header ++ Header.separator ++ body) header.length ↔
      Split.first? Header.separator (header ++ Header.separator ++ body) = some (header, body) := by
  rw [Split.first?_eq_some_iff]
  constructor
  · exact fun first => ⟨rfl, first.earliest⟩
  · rintro ⟨-, earliest⟩
    refine ⟨?_, earliest⟩
    rw [List.append_assoc, List.drop_left]
    exact List.prefix_append _ _

/-- The reader takes the segment that fits, up to the first separator and its content. -/
theorem first?_eq_some_iff {data rest : Bytes} {segment : Segment} :
    first? data = some (segment, rest) ↔
      data = segment.bytes ++ rest ∧ segment.Fits ∧ FirstSeparator data segment.header.length := by
  constructor
  · intro found
    refine ⟨eq_append_of_first? found, ?_⟩
    unfold first? at found
    split at found
    · cases found
    · rename_i header body cut
      have first := cut
      rw [Split.eq_append_of_first? cut, ← firstSeparator_iff] at first
      rw [Split.eq_append_of_first? cut]
      split at found
      · rename_i error declares
        cases found
        exact ⟨fits_unusable_iff.mpr declares, first⟩
      · rename_i length declares
        split at found
        · cases found
        · rename_i complete
          cases found
          have taken : (body.take length).length = length := by
            rw [List.length_take]
            omega
          exact ⟨fits_framed_iff.mpr (taken.symm ▸ declares), first⟩
  · rintro ⟨whole, fits, first⟩
    rw [whole] at first ⊢
    cases segment with
    | unusable header error =>
      have cut := firstSeparator_iff.mp first
      rw [bytes, Segment.first?, cut]
      simp only [fits_unusable_iff.mp fits]
    | framed header content =>
      rw [bytes, List.append_assoc] at first ⊢
      have cut := firstSeparator_iff.mp first
      have long : ¬ (content ++ rest).length < content.length := by
        rw [List.length_append]
        omega
      rw [Segment.first?, cut]
      simp only [fits_framed_iff.mp fits, long, if_false, List.take_left, List.drop_left]

theorem Segmentation.bytes_eq {stream rest : Bytes} {segments : List Segment}
    (cut : Segmentation stream segments rest) : stream = segments.flatMap bytes ++ rest := by
  induction cut with
  | incomplete _ => rfl
  | segment _ _ _ ih => rw [List.flatMap_cons, List.append_assoc, ← ih]

theorem segmentation_iff_scan {stream rest : Bytes} {segments : List Segment} :
    Segmentation stream segments rest ↔ scan stream = (segments, rest) := by
  constructor
  · intro cut
    induction cut with
    | incomplete waits => exact scan_of_none (unwrap_eq_none_iff.mp waits)
    | segment fits first _ ih =>
      rw [scan_of_some (first?_eq_some_iff.mpr ⟨rfl, fits, first⟩), ih]
  · induction stream using scan.induct generalizing segments with
    | case1 stream missing =>
      intro same
      rw [scan_of_none missing] at same
      cases same
      exact .incomplete (unwrap_eq_none_iff.mpr missing)
    | case2 stream segment left found _ _ _ ih =>
      intro same
      rw [scan_of_some found] at same
      obtain ⟨rfl, rfl⟩ := Prod.mk.inj same
      obtain ⟨whole, fits, first⟩ := first?_eq_some_iff.mp found
      rw [whole] at first ⊢
      exact .segment fits first (ih rfl)

theorem reports_ofSegment (segment : Segment) : Reports segment (Packet.ofSegment segment) := by
  cases segment with
  | unusable header error => exact .unusable
  | framed header content =>
    rw [Packet.ofSegment, Packet.checked, Packet.message]
    dsimp only
    cases decoded : Message.decode content with
    | ok message => exact .packet decoded
    | error cause => exact .invalid decoded

theorem four_mul_length_le (segments : List Segment) :
    4 * segments.length ≤ (segments.flatMap bytes).length := by
  induction segments with
  | nil => exact Nat.le_refl 0
  | cons segment rest ih =>
    have long : 4 ≤ segment.bytes.length := separator_length_le segment
    rw [List.flatMap_cons, List.length_append, List.length_cons]
    omega

theorem infix_of_reported {stream rest : Bytes} {segments : List Segment} {packet : Packet}
    (cut : Segmentation stream segments rest)
    (reported : .ok packet ∈ segments.map Packet.ofSegment) : packet.toBytes <:+: stream := by
  obtain ⟨segment, mem, same⟩ := List.mem_map.mp reported
  have framed : segment.bytes = packet.toBytes := by
    have reports := reports_ofSegment segment
    rw [same] at reports
    cases reports
    rfl
  obtain ⟨before, after, rfl⟩ := List.append_of_mem mem
  rw [cut.bytes_eq, ← framed, List.flatMap_append, List.flatMap_cons]
  exact ⟨before.flatMap bytes, after.flatMap bytes ++ rest, by simp only [List.append_assoc]⟩

end Segment

namespace Detector

theorem detect_of_segmentation {stream rest : Bytes} {segments : List Segment}
    (cut : Segment.Segmentation stream segments rest) :
    (detect {} stream).1 = segments.map Packet.ofSegment ∧
      List.Forall₂ Segment.Reports segments (detect {} stream).1 ∧
      (detect {} stream).2.buffer = rest := by
  obtain ⟨found, left⟩ := feed_eq_scan {} stream
  have scanned : Segment.scan stream = (segments, rest) := Segment.segmentation_iff_scan.mp cut
  have reports : (detect {} stream).1 = (Segment.scan stream).1.map Packet.ofSegment :=
    congrArg (List.map Packet.ofSegment) found
  have buffered : (detect {} stream).2.buffer = (Segment.scan stream).2 := left
  rw [scanned] at reports buffered
  refine ⟨reports, ?_, buffered⟩
  rw [reports, List.forall₂_map_right_iff, List.forall₂_same]
  exact fun segment _ => Segment.reports_ofSegment segment

/-- A stream has exactly one segmentation, and it is what a new detector makes of it: a report for
each segment, in the order of the segments, with the rest kept. -/
theorem existsUnique_segmentation (stream : Bytes) :
    ∃ segments rest, Segment.Segmentation stream segments rest ∧
      (∀ others left, Segment.Segmentation stream others left → others = segments ∧ left = rest) ∧
      stream = segments.flatMap Segment.bytes ++ rest ∧ 4 * segments.length ≤ stream.length ∧
      List.Forall₂ Segment.Reports segments (detect {} stream).1 ∧
      (detect {} stream).2.buffer = rest ∧
      ∀ packet, .ok packet ∈ (detect {} stream).1 → packet.toBytes <:+: stream := by
  have cut : Segment.Segmentation stream (Segment.scan stream).1 (Segment.scan stream).2 :=
    Segment.segmentation_iff_scan.mpr rfl
  obtain ⟨reported, reports, left⟩ := detect_of_segmentation cut
  have whole := cut.bytes_eq
  refine ⟨_, _, cut, ?_, whole, ?_, reports, left, ?_⟩
  · intro others last same
    have again := Segment.segmentation_iff_scan.mp same
    rw [again]
    exact ⟨rfl, rfl⟩
  · have long := Segment.four_mul_length_le (Segment.scan stream).1
    have total := congrArg List.length whole
    rw [List.length_append] at total
    omega
  · rw [reported]
    exact fun packet among => Segment.infix_of_reported cut among

/-- A packet, garbage, and a header that waits for its content. -/
example :
    let content := Utf8.bytes "\x7b\"method\":\"a\"\x7d"
    let garbage := Utf8.bytes "garbage"
    let waiting := Header.ofLength 5 ++ Header.separator ++ Utf8.bytes "\x7b\x7d"
    let stream := Segment.wrap content ++ (garbage ++ Header.separator ++ waiting)
    (detect {} stream).1 =
        [.ok ⟨Header.ofLength 14, content⟩, .error (.header .missingContentLength)] ∧
      (detect {} stream).2.buffer = waiting := by
  decide +kernel

end Detector

end LanguageClient
