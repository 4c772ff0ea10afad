import LanguageClient.Proofs.Packet.Fragmentation
import LanguageClient.Proofs.Packet.Header

set_option autoImplicit false

namespace LanguageClient

namespace Segment

/-- The first blank line stands behind the header, which declares what the segment holds. -/
def Whole : Segment → Prop
  | .unusable header error =>
    ¬ Header.separator <:+: header ++ Header.separator.dropLast ∧ declared header = .error error
  | .framed header content =>
    ¬ Header.separator <:+: header ++ Header.separator.dropLast ∧
      declared header = .ok content.length

theorem first?_separator {header : Bytes}
    (unbroken : ¬ Header.separator <:+: header ++ Header.separator.dropLast) (rest : Bytes) :
    Split.first? Header.separator (header ++ Header.separator ++ rest) = some (header, rest) := by
  have missing : Split.first? Header.separator (header ++ Header.separator.dropLast) = none :=
    Split.first?_eq_none_iff.mpr unbroken
  have last : Header.separator = Header.separator.dropLast ++ [0x0A] := rfl
  have complete : header ++ Header.separator.dropLast ++ [0x0A] = header ++ Header.separator := by
    rw [List.append_assoc, ← last]
  have found := Split.first?_concat missing complete
  rw [complete] at found
  exact Split.first?_append rest found

theorem first?_bytes {segment : Segment} (whole : segment.Whole) (rest : Bytes) :
    first? (segment.bytes ++ rest) = some (segment, rest) := by
  cases segment with
  | unusable header error =>
    obtain ⟨unbroken, declares⟩ := whole
    simp only [first?, bytes, first?_separator unbroken, declares]
  | framed header content =>
    obtain ⟨unbroken, declares⟩ := whole
    have long : ¬ (content ++ rest).length < content.length := by
      rw [List.length_append]
      omega
    rw [first?, bytes, List.append_assoc (header ++ Header.separator), first?_separator unbroken]
    simp only [declares, long, if_false, List.take_left, List.drop_left]

/-- The frame that is written for any content. -/
def frame (content : Bytes) : Segment := .framed (Header.ofLength content.length) content

theorem whole_frame {content : Bytes} (accepted : content.length ≤ Header.contentLimit) :
    (frame content).Whole :=
  ⟨Header.unbroken_of_not_mem (Header.not_mem_ofLength _), Header.declared_ofLength accepted⟩

theorem scan_flatMap_bytes_append {segments : List Segment}
    (whole : ∀ segment ∈ segments, segment.Whole) (rest : Bytes) :
    scan (segments.flatMap bytes ++ rest) = (segments ++ (scan rest).1, (scan rest).2) := by
  induction segments with
  | nil => rfl
  | cons segment segments ih =>
    obtain ⟨first, later⟩ := List.forall_mem_cons.mp whole
    rw [List.flatMap_cons, List.append_assoc, scan_of_some (first?_bytes first _), ih later]
    rfl

theorem scan_flatMap_bytes {segments : List Segment} (whole : ∀ segment ∈ segments, segment.Whole) :
    scan (segments.flatMap bytes) = (segments, []) := by
  have cut := scan_flatMap_bytes_append whole []
  have nothing : scan [] = ([], []) := scan_of_none rfl
  rwa [nothing, List.append_nil, List.append_nil] at cut

end Segment

end LanguageClient
