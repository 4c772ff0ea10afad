import LanguageClient.Proofs.Packet.Delimiting
import LanguageClient.Proofs.Packet.Validity

set_option autoImplicit false

namespace LanguageClient

namespace Segment

/-- A segment that was found is found again in front of any bytes. -/
theorem whole_of_first? {data rest : Bytes} {segment : Segment}
    (found : first? data = some (segment, rest)) : segment.Whole := by
  obtain ⟨same, fits, first⟩ := first?_eq_some_iff.mp found
  -- a blank line that began inside the header would be the first separator of the bytes
  have unbroken {header body : Bytes}
      (cut : Split.first? Header.separator (header ++ Header.separator ++ body) =
        some (header, body)) :
      ¬ Header.separator <:+: header ++ Header.separator.dropLast := by
    rw [← Split.first?_eq_none_iff]
    cases early : Split.first? Header.separator (header ++ Header.separator.dropLast) with
    | none => rfl
    | some parts =>
      obtain ⟨before, after⟩ := parts
      have again := Split.first?_append (0x0A :: body) early
      have whole : header ++ Header.separator.dropLast ++ 0x0A :: body =
          header ++ Header.separator ++ body := by
        simp [Header.separator]
      rw [whole, cut, Option.some.injEq, Prod.mk.injEq] at again
      rw [again.1] at early
      have lengths := congrArg List.length (Split.eq_append_of_first? early)
      simp only [Header.separator, List.dropLast_cons_cons, List.dropLast_singleton,
        List.length_append, List.length_cons, List.length_nil] at lengths
      omega
  cases segment with
  | unusable header error =>
    rw [same] at first
    exact ⟨unbroken (firstSeparator_iff.mp first), fits_unusable_iff.mp fits⟩
  | framed header content =>
    rw [same, bytes, List.append_assoc] at first
    exact ⟨unbroken (firstSeparator_iff.mp first), fits_framed_iff.mp fits⟩

end Segment

namespace Packet

theorem parsePrefix_of_first? {data rest : Bytes} {segment : Segment}
    (found : Segment.first? data = some (segment, rest)) :
    parsePrefix data = (ofSegment segment).map some := by
  rw [parsePrefix, found]

/-- Bytes wait for more exactly while their first segment is incomplete. -/
theorem parsePrefix_eq_none_iff {data : Bytes} :
    parsePrefix data = .ok none ↔ Segment.first? data = none := by
  unfold parsePrefix
  split
  · rename_i missing
    simp [missing]
  · rename_i segment rest found
    cases ofSegment segment <;> simp [found, Except.map]

/-- A packet is the frame at the front, if its content is a message. -/
theorem parsePrefix_eq_some_iff {data : Bytes} {packet : Packet} :
    parsePrefix data = .ok (some packet) ↔
      (∃ message, packet.message = .ok message) ∧
        ∃ rest, Segment.first? data = some (.framed packet.header packet.content, rest) := by
  constructor
  · intro parsed
    cases found : Segment.first? data with
    | none =>
      rw [parsePrefix_eq_none_iff.mpr found] at parsed
      cases parsed
    | some cut =>
      obtain ⟨segment, rest⟩ := cut
      rw [parsePrefix_of_first? found] at parsed
      obtain ⟨inner, accepted, same⟩ := Json.Reader.exists_of_map parsed
      rw [Option.some.inj same] at accepted
      cases segment with
      | unusable header error => cases accepted
      | framed header content =>
        obtain ⟨rfl, decodes⟩ := checked_eq_ok_iff.mp accepted
        exact ⟨decodes, rest, rfl⟩
  · rintro ⟨decodes, rest, found⟩
    rw [parsePrefix_of_first? found, ofSegment, checked_eq_ok_iff.mpr ⟨rfl, decodes⟩]
    rfl

theorem parsePrefix_append {data : Bytes} (decided : parsePrefix data ≠ .ok none) (more : Bytes) :
    parsePrefix (data ++ more) = parsePrefix data := by
  cases found : Segment.first? data with
  | none => exact absurd (parsePrefix_eq_none_iff.mpr found) decided
  | some cut =>
    obtain ⟨segment, rest⟩ := cut
    rw [parsePrefix_of_first? found, parsePrefix_of_first? (Segment.first?_append more found)]

/-- A packet that is parsed is the beginning of the bytes. It is parsed from its own bytes and from
any that begin with them, and from no beginning of its bytes; an error stays the same when more
bytes follow; and bytes that wait for more have waited all along. -/
theorem parsePrefix_stable (data more : Bytes) :
    (∀ packet, parsePrefix data = .ok (some packet) →
      packet.toBytes <+: data ∧ packet.toBytes.length = packet.size ∧
        (∃ message, packet.message = .ok message) ∧
        parsePrefix packet.toBytes = .ok (some packet) ∧
        (∀ part, part <+: packet.toBytes → part ≠ packet.toBytes →
          parsePrefix part = .ok none) ∧
        parsePrefix (data ++ more) = .ok (some packet)) ∧
      (∀ error, parsePrefix data = .error error → parsePrefix (data ++ more) = .error error) ∧
      (parsePrefix data = .ok none → ∀ part, part <+: data → parsePrefix part = .ok none) := by
  refine ⟨fun packet parsed => ?_, fun error failed => ?_, fun waits part begins => ?_⟩
  · obtain ⟨decodes, rest, found⟩ := parsePrefix_eq_some_iff.mp parsed
    have whole := Segment.whole_of_first? found
    have own : Segment.first? packet.toBytes =
        some (.framed packet.header packet.content, []) := by
      rw [← List.append_nil packet.toBytes]
      exact Segment.first?_bytes whole []
    refine ⟨⟨rest, (Segment.eq_append_of_first? found).symm⟩, ?_, decodes, ?_, ?_, ?_⟩
    · simp only [toBytes, size, List.length_append]
    · exact parsePrefix_eq_some_iff.mpr ⟨decodes, [], own⟩
    · intro part begins incomplete
      exact parsePrefix_eq_none_iff.mpr (Segment.first?_of_incomplete whole begins incomplete)
    · rw [parsePrefix_append (by simp [parsed]), parsed]
  · rw [parsePrefix_append (by simp [failed]), failed]
  · obtain ⟨rest, rfl⟩ := begins
    by_contra decided
    rw [parsePrefix_append decided] at waits
    exact decided waits

/-- A packet whose content holds a separator and is followed by other bytes, a header that declares
too much, and a header whose separator has not come to its end. -/
theorem parsePrefix_stable_of_cuts :
    let packet : Packet := ⟨Utf8.bytes "X: \r\nContent-Length: +25",
      Utf8.bytes "\x7b\"method\":\"a\"\r\n\r\n,\"id\":1\x7d"⟩
    let large := Utf8.bytes "Content-Length: 104857601" ++ Header.separator
    let waiting := Utf8.bytes "Content-Length: 2\r\n\r"
    let more := Utf8.bytes "\n\x7b\x7d"
    parsePrefix (packet.toBytes ++ [0x0D]) = .ok (some packet) ∧
      parsePrefix (packet.toBytes.take 41) = .ok none ∧
      parsePrefix (packet.toBytes ++ [0x0D] ++ more) = .ok (some packet) ∧
      parsePrefix (large ++ more) =
        .error (.header (.contentTooLarge 104857601 Header.contentLimit)) ∧
      parsePrefix (waiting.take 4) = .ok none := by
  intro packet large waiting more
  have parsed : parsePrefix (packet.toBytes ++ [0x0D]) = .ok (some packet) := by decide +kernel
  have failed : parsePrefix large =
      .error (.header (.contentTooLarge 104857601 Header.contentLimit)) := by decide +kernel
  have waits : parsePrefix waiting = .ok none := by decide +kernel
  obtain ⟨-, -, -, -, parts, longer⟩ := (parsePrefix_stable _ more).1 packet parsed
  exact ⟨parsed, parts _ (List.take_prefix _ _) (by decide +kernel), longer,
    (parsePrefix_stable large more).2.1 _ failed,
    (parsePrefix_stable waiting more).2.2 waits _ (List.take_prefix _ _)⟩

end Packet

end LanguageClient
