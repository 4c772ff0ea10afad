import LanguageClient.Log
import LanguageClient.Packet.Basic

set_option autoImplicit false

/-!
Packets out of a stream of bytes that arrives in pieces. A frame whose content is no message is
dropped whole, and a header that declares no usable length is dropped with its separator; both are
reported, and detection goes on with the next byte.

A detector looks at each byte once. That it finds the segments of everything that has arrived is
`Detector.scan_buffer_append`.
-/

namespace LanguageClient

abbrev Detected := Except FramingError Packet

def Segment.record? (segment : Segment) : Option Log.Record :=
  match segment, Packet.ofSegment segment with
  | _, .ok _ => none
  | .framed _ _, .error error =>
    some ⟨.error, .detector, "Dropping LSP packet with invalid content: " ++ error.message⟩
  | .unusable _ _, .error error =>
    some ⟨.error, .detector, "Dropping " ++ segment.bytes.length.repr ++
      " bytes with invalid LSP header: " ++ error.message⟩

namespace Detector

/-- Where the stream was left, inside a segment. Bytes that were seen are kept in reverse. -/
inductive Phase where
  | heading (seen : Bytes) (count : Nat)
  /-- Behind a header that declares a length, of which some is missing. -/
  | content (header : Bytes) (length : Nat) (seen : Bytes) (missing : Nat)
deriving DecidableEq

namespace Phase

def buffer : Phase → Bytes
  | heading seen _ => seen.reverse
  | content header _ seen _ => header ++ Header.separator ++ seen.reverse

def size : Phase → Nat
  | heading _ count => count
  | content header length _ missing =>
    header.length + Header.separator.length + (length - missing)

/-- A header has not ended, or has ended once and declares what is waited for. -/
def Valid : Phase → Prop
  | heading seen count =>
    Split.first? Header.separator seen.reverse = none ∧ count = seen.length
  | content header length seen missing =>
    Split.first? Header.separator (header ++ Header.separator) = some (header, []) ∧
      Segment.declared header = .ok length ∧ seen.length + missing = length ∧ 0 < missing

theorem valid_start : (heading [] 0).Valid := ⟨rfl, rfl⟩

/-- The segment, if any, that ends with a header, and where that leaves the stream. -/
def behind (header : Bytes) : Option Segment × Phase :=
  match Segment.declared header with
  | .error error => (some (.unusable header error), .heading [] 0)
  | .ok 0 => (some (.framed header []), .heading [] 0)
  | .ok (missing + 1) => (none, .content header (missing + 1) [] (missing + 1))

def step (phase : Phase) (byte : UInt8) : Option Segment × Phase :=
  match phase with
  | heading seen count =>
    match Split.afterPrefix? Header.separator.reverse (byte :: seen) with
    | none => (none, .heading (byte :: seen) (count + 1))
    | some before => behind before.reverse
  | content header length seen missing =>
    if missing ≤ 1 then (some (.framed header (byte :: seen).reverse), .heading [] 0)
    else (none, .content header length (byte :: seen) (missing - 1))

end Phase

end Detector

/-- The bytes that wait for the rest of their segment. -/
structure Detector where
  phase : Detector.Phase := .heading [] 0
  valid : phase.Valid := by exact Detector.Phase.valid_start
deriving DecidableEq

namespace Detector

def buffer (detector : Detector) : Bytes := detector.phase.buffer

def size (detector : Detector) : Nat := detector.phase.size

/-- How many bytes must come at least before anything is complete: what is missing of the content,
or one byte of the header. -/
def awaited (detector : Detector) : Nat :=
  match detector.phase with
  | .heading _ _ => 1
  | .content _ _ _ missing => missing

/-! ### Bytes one by one -/

theorem Phase.size_eq {phase : Phase} (valid : phase.Valid) :
    phase.size = phase.buffer.length := by
  cases phase with
  | heading seen count => simpa [size, buffer] using valid.2
  | content header length seen missing =>
    obtain ⟨-, -, total, -⟩ := valid
    simp only [size, buffer, List.length_append, List.length_reverse]
    omega

/-- What waits is less than a segment. -/
theorem Phase.first?_buffer {phase : Phase} (valid : phase.Valid) :
    Segment.first? phase.buffer = none := by
  cases phase with
  | heading seen count => simp only [buffer, Segment.first?, valid.1]
  | content header length seen missing =>
    obtain ⟨found, declared, total, positive⟩ := valid
    have short : seen.reverse.length < length := by
      rw [List.length_reverse]
      omega
    simp only [buffer, Segment.first?, Split.first?_append seen.reverse found, declared,
      List.nil_append, short, if_true]

theorem Phase.first?_behind {header : Bytes}
    (found : Split.first? Header.separator (header ++ Header.separator) = some (header, [])) :
    (behind header).2.Valid ∧
      ((behind header).1 = none → (behind header).2.buffer = header ++ Header.separator) ∧
      (∀ segment, (behind header).1 = some segment → (behind header).2.buffer = [] ∧
        ∀ rest, Segment.first? (header ++ Header.separator ++ rest) = some (segment, rest)) := by
  have cut (rest : Bytes) :
      Split.first? Header.separator (header ++ Header.separator ++ rest) = some (header, rest) :=
    Split.first?_append rest found
  unfold behind
  split
  · rename_i error declared
    refine ⟨⟨rfl, rfl⟩, nofun, ?_⟩
    rintro segment ⟨⟩
    exact ⟨rfl, fun rest => by simp only [Segment.first?, cut rest, declared]⟩
  · rename_i declared
    refine ⟨⟨rfl, rfl⟩, nofun, ?_⟩
    rintro segment ⟨⟩
    refine ⟨rfl, fun rest => ?_⟩
    simp only [Segment.first?, cut rest, declared]
    simp
  · rename_i missing declared
    refine ⟨⟨found, declared, ?_, Nat.succ_pos missing⟩, fun _ => ?_, nofun⟩
    · simp
    · simp [buffer]

/-- One more byte either waits with the others, or completes the segment that they make up. -/
theorem Phase.first?_step {phase : Phase} (valid : phase.Valid) (byte : UInt8) :
    (phase.step byte).2.Valid ∧
      ((phase.step byte).1 = none → (phase.step byte).2.buffer = phase.buffer ++ [byte]) ∧
      (∀ segment, (phase.step byte).1 = some segment → (phase.step byte).2.buffer = [] ∧
        ∀ rest, Segment.first? (phase.buffer ++ [byte] ++ rest) = some (segment, rest)) := by
  cases phase with
  | heading seen count =>
    obtain ⟨valid, counted⟩ := valid
    cases matched : Split.afterPrefix? Header.separator.reverse (byte :: seen) with
    | none =>
      simp only [step, matched]
      refine ⟨⟨?_, by rw [counted, List.length_cons]⟩, fun _ => by simp [buffer], nofun⟩
      rw [List.reverse_cons, Option.eq_none_iff_forall_not_mem]
      rintro ⟨before, after⟩ found
      have complete := (Split.eq_append_of_first?_concat valid found).2
      have same : byte :: seen = Header.separator.reverse ++ before.reverse := by
        simpa using congrArg List.reverse complete
      rw [Split.afterPrefix?_eq_some_iff.mpr same] at matched
      exact absurd matched nofun
    | some before =>
      simp only [step, matched]
      have complete : seen.reverse ++ [byte] = before.reverse ++ Header.separator := by
        have whole := congrArg List.reverse (Split.afterPrefix?_eq_some_iff.mp matched)
        simpa using whole
      have found := Split.first?_concat valid complete
      simp only [buffer]
      rw [complete] at found ⊢
      exact first?_behind found
  | content header length seen missing =>
    obtain ⟨found, declared, total, positive⟩ := valid
    by_cases last : missing ≤ 1
    · simp only [step, last, if_true]
      refine ⟨⟨rfl, rfl⟩, nofun, ?_⟩
      rintro segment ⟨⟩
      refine ⟨rfl, fun rest => ?_⟩
      have full : (byte :: seen).reverse.length = length := by
        rw [List.length_reverse, List.length_cons]
        omega
      have cut : Split.first? Header.separator
          (header ++ Header.separator ++ ((byte :: seen).reverse ++ rest)) =
          some (header, (byte :: seen).reverse ++ rest) :=
        Split.first?_append _ found
      have same : (Phase.content header length seen missing).buffer ++ [byte] ++ rest =
          header ++ Header.separator ++ ((byte :: seen).reverse ++ rest) := by
        simp [buffer]
      rw [same, Segment.first?, cut]
      simp only [declared]
      rw [if_neg (by rw [List.length_append]; omega), ← full, List.take_left, List.drop_left]
    · simp only [step, last, if_false]
      refine ⟨⟨found, declared, ?_, ?_⟩, fun _ => ?_, nofun⟩
      · simp only [List.length_cons]
        omega
      · omega
      · simp [buffer]

def step (detector : Detector) (byte : UInt8) : Option Segment × Detector :=
  ((detector.phase.step byte).1,
    ⟨(detector.phase.step byte).2, (Phase.first?_step detector.valid byte).1⟩)

/-- Takes up bytes; the segments that they complete, in reverse and before those that are held. -/
def gather (held : List Segment × Detector) (chunk : Bytes) : List Segment × Detector :=
  chunk.foldl (fun (segments, detector) byte =>
    let (segment, next) := detector.step byte
    (segment.toList ++ segments, next)) held

def feed (detector : Detector) (chunk : Bytes) : List Segment × Detector :=
  let (segments, last) := gather ([], detector) chunk
  (segments.reverse, last)

theorem gather_cons (held : List Segment) (detector : Detector) (byte : UInt8) (rest : Bytes) :
    gather (held, detector) (byte :: rest) =
      gather ((detector.step byte).1.toList ++ held, (detector.step byte).2) rest := rfl

/-- What is gathered are the segments of what waited and what came after it. -/
theorem gather_eq_scan (held : List Segment) (detector : Detector) (chunk : Bytes) :
    (gather (held, detector) chunk).1.reverse =
        held.reverse ++ (Segment.scan (detector.buffer ++ chunk)).1 ∧
      (gather (held, detector) chunk).2.buffer =
        (Segment.scan (detector.buffer ++ chunk)).2 := by
  induction chunk generalizing held detector with
  | nil =>
    have waits : Segment.first? detector.buffer = none := Phase.first?_buffer detector.valid
    rw [List.append_nil, Segment.scan_of_none waits]
    exact ⟨(List.append_nil _).symm, rfl⟩
  | cons byte rest ih =>
    obtain ⟨-, waits, completes⟩ := Phase.first?_step detector.valid byte
    have later := ih ((detector.step byte).1.toList ++ held) (detector.step byte).2
    have whole : detector.buffer ++ byte :: rest = detector.buffer ++ [byte] ++ rest := by simp
    rw [whole, gather_cons]
    cases done : (detector.step byte).1 with
    | none =>
      have kept : (detector.step byte).2.buffer = detector.buffer ++ [byte] := waits done
      rw [kept, done] at later
      simpa only [Option.toList_none, List.nil_append] using later
    | some segment =>
      have fresh : (detector.step byte).2.buffer = [] := (completes segment done).1
      have found : Segment.first? (detector.buffer ++ [byte] ++ rest) = some (segment, rest) :=
        (completes segment done).2 rest
      rw [fresh, List.nil_append, done] at later
      rw [Segment.scan_of_some found]
      simpa using later

/-- What is fed in pieces is segmented as it would be in one piece. -/
theorem scan_buffer_append (detector : Detector) (chunk : Bytes) :
    Segment.scan (detector.buffer ++ chunk) =
      ((detector.feed chunk).1, (detector.feed chunk).2.buffer) := by
  obtain ⟨segments, last⟩ := gather_eq_scan [] detector chunk
  exact Prod.ext segments.symm last.symm

def waiting (detector : Detector) : Log :=
  if detector.size = 0 then []
  else [⟨.debug, .detector, detector.size.repr ++ " bytes buffered, waiting for more"⟩]

def log (detector : Detector) (chunk : Bytes) : Log :=
  let (segments, later) := detector.feed chunk
  segments.filterMap Segment.record? ++ later.waiting

def detect (detector : Detector) (chunk : Bytes) : List Detected × Detector :=
  let (segments, later) := detector.feed chunk
  (segments.map Packet.ofSegment, later)

def detectAll : Detector → List Bytes → List Detected × Log × Detector
  | detector, [] => ([], [], detector)
  | detector, chunk :: rest =>
    let (found, next) := detector.detect chunk
    let (later, log, last) := detectAll next rest
    (found ++ later, detector.log chunk ++ log, last)

def packets (found : List Detected) : List Packet := found.filterMap Except.toOption

end Detector

end LanguageClient
