import LanguageClient.Packet.Header

set_option autoImplicit false

/-!
A stream of packets as segments. A segment is a header with its separator and, if the header
declares a usable length, as many bytes of content.
-/

namespace LanguageClient

inductive Segment where
  | unusable (header : Bytes) (error : HeaderError)
  | framed (header content : Bytes)
deriving DecidableEq

namespace Segment

def bytes : Segment → Bytes
  | .unusable header _ => header ++ Header.separator
  | .framed header content => header ++ Header.separator ++ content

/-- The length that a header declares; an empty header declares none. -/
def declared (header : Bytes) : Except HeaderError Nat :=
  if header.isEmpty then .error .empty else Header.contentLength header

/-- The segment at the front and what follows it; `none` while the segment is incomplete. -/
def first? (data : Bytes) : Option (Segment × Bytes) :=
  match Split.first? Header.separator data with
  | none => none
  | some (header, body) =>
    match declared header with
    | .error error => some (.unusable header error, body)
    | .ok length =>
      if body.length < length then none
      else some (.framed header (body.take length), body.drop length)

theorem eq_append_of_first? {data rest : Bytes} {segment : Segment}
    (found : first? data = some (segment, rest)) : data = segment.bytes ++ rest := by
  unfold first? at found
  split at found
  · simp at found
  · rename_i header body split
    rw [Split.eq_append_of_first? split]
    split at found
    · obtain ⟨rfl, rfl⟩ : Segment.unusable header _ = segment ∧ body = rest := by simpa using found
      rfl
    · split at found
      · simp at found
      · obtain ⟨rfl, rfl⟩ : Segment.framed header _ = segment ∧ List.drop _ body = rest := by
          simpa using found
        simp [bytes]

theorem separator_length_le (segment : Segment) :
    Header.separator.length ≤ segment.bytes.length := by
  cases segment with
  | unusable header error => simp [bytes]
  | framed header content =>
    simp only [bytes, List.length_append]
    omega

theorem length_lt_of_first? {data rest : Bytes} {segment : Segment}
    (found : first? data = some (segment, rest)) : rest.length < data.length := by
  have whole := congrArg List.length (eq_append_of_first? found)
  have long := separator_length_le segment
  simp only [List.length_append] at whole
  simp only [Header.separator, List.length_cons, List.length_nil] at long
  omega

def scan (data : Bytes) : List Segment × Bytes :=
  match _found : first? data with
  | none => ([], data)
  | some (segment, rest) =>
    let (later, left) := scan rest
    (segment :: later, left)
termination_by data.length
decreasing_by exact length_lt_of_first? _found

theorem scan_of_none {data : Bytes} (missing : first? data = none) : scan data = ([], data) := by
  rw [scan]
  split
  · rfl
  · rename_i found
    rw [missing] at found
    exact absurd found nofun

theorem scan_of_some {data rest : Bytes} {segment : Segment}
    (found : first? data = some (segment, rest)) :
    scan data = (segment :: (scan rest).1, (scan rest).2) := by
  rw [scan]
  split
  · rename_i missing
    rw [found] at missing
    exact absurd missing nofun
  · rename_i other
    rw [found] at other
    obtain ⟨rfl, rfl⟩ := other
    rfl

def wrap (content : Bytes) : Bytes :=
  Header.ofLength content.length ++ Header.separator ++ content

/-- Header and content of the frame at the front of the bytes, whatever the content. -/
def unwrap (data : Bytes) : Except HeaderError (Option (Bytes × Bytes)) :=
  match first? data with
  | none => .ok none
  | some (.unusable _ error, _) => .error error
  | some (.framed header content, _) => .ok (some (header, content))

end Segment

end LanguageClient
