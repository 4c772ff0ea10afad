import LanguageClient.Packet.Detector

set_option autoImplicit false

/-!
A stream may be cut into chunks anywhere. What is decided about the bytes that have arrived stays
decided when more arrive, so scanning goes on where it stopped, and a detector finds the same in
every row of chunks.
-/

namespace LanguageClient

namespace Segment

/-- The first segment stays the first one when more follows. -/
theorem first?_append {data rest : Bytes} {segment : Segment} (more : Bytes)
    (found : first? data = some (segment, rest)) :
    first? (data ++ more) = some (segment, rest ++ more) := by
  unfold first? at found
  split at found
  · cases found
  · rename_i header body cut
    rw [first?, Split.first?_append more cut]
    split at found
    · rename_i error declared
      cases found
      simp only [declared]
    · rename_i length declared
      simp only [declared]
      split at found
      · cases found
      · rename_i complete
        cases found
        have longer : ¬ (body ++ more).length < length := by
          rw [List.length_append]
          omega
        have inside : length ≤ body.length := by omega
        rw [if_neg longer, List.take_append_of_le_length inside,
          List.drop_append_of_le_length inside]

theorem scan_append (data more : Bytes) :
    scan (data ++ more) = ((scan data).1 ++ (scan ((scan data).2 ++ more)).1,
      (scan ((scan data).2 ++ more)).2) := by
  induction data using scan.induct with
  | case1 data missing =>
    rw [scan_of_none missing]
    rfl
  | case2 data segment rest found _ _ _ ih =>
    rw [scan_of_some (first?_append more found), ih, scan_of_some found]
    rfl

/-- Scans chunks one after the other. Each is put behind the bytes that the chunk before it left,
and all of that is looked at from its beginning. -/
def scanAll : Bytes → List Bytes → List Segment × Bytes
  | buffer, [] => ([], buffer)
  | buffer, chunk :: rest =>
    let (segments, left) := scan (buffer ++ chunk)
    let (later, last) := scanAll left rest
    (segments ++ later, last)

end Segment

namespace Detector

theorem first?_buffer (detector : Detector) : Segment.first? detector.buffer = none :=
  Phase.first?_buffer detector.valid

/-- Where a stream was left can be read off the bytes that wait. -/
theorem Phase.buffer_injective {first second : Phase} (firstValid : first.Valid)
    (secondValid : second.Valid) (same : first.buffer = second.buffer) : first = second := by
  cases first with
  | heading seen count =>
    obtain ⟨unended, counted⟩ := firstValid
    cases second with
    | heading other total =>
      have bytes : seen = other := List.reverse_inj.mp same
      rw [counted, secondValid.2, bytes]
    | content header length other missing =>
      have ended := Split.first?_append other.reverse secondValid.1
      have bytes : seen.reverse = header ++ Header.separator ++ other.reverse := same
      rw [← bytes, unended] at ended
      cases ended
  | content header length seen missing =>
    obtain ⟨found, declared, total, -⟩ := firstValid
    have ended := Split.first?_append seen.reverse found
    cases second with
    | heading other count =>
      have bytes : header ++ Header.separator ++ seen.reverse = other.reverse := same
      rw [bytes, secondValid.1] at ended
      cases ended
    | content header' length' other missing' =>
      obtain ⟨found', declared', total', -⟩ := secondValid
      have bytes : header ++ Header.separator ++ seen.reverse =
          header' ++ Header.separator ++ other.reverse := same
      rw [bytes, Split.first?_append other.reverse found'] at ended
      simp only [List.nil_append, Option.some.injEq, Prod.mk.injEq, List.reverse_inj] at ended
      obtain ⟨rfl, rfl⟩ := ended
      rw [declared'] at declared
      cases declared
      have rest : missing = missing' := by omega
      rw [rest]

theorem buffer_injective {first second : Detector} (same : first.buffer = second.buffer) :
    first = second := by
  obtain ⟨phase₁, valid₁⟩ := first
  obtain ⟨phase₂, valid₂⟩ := second
  cases Phase.buffer_injective valid₁ valid₂ same
  rfl

theorem feed_eq_scan (detector : Detector) (chunk : Bytes) :
    (detector.feed chunk).1 = (Segment.scan (detector.buffer ++ chunk)).1 ∧
      (detector.feed chunk).2.buffer = (Segment.scan (detector.buffer ++ chunk)).2 := by
  rw [scan_buffer_append]
  exact ⟨rfl, rfl⟩

/-- Every detector is what feeding its own buffer leaves. -/
theorem feed_buffer (detector : Detector) : feed {} detector.buffer = ([], detector) := by
  obtain ⟨segments, left⟩ := feed_eq_scan {} detector.buffer
  have nothing : (({} : Detector).buffer ++ detector.buffer) = detector.buffer := rfl
  rw [nothing, Segment.scan_of_none detector.first?_buffer] at segments left
  exact Prod.ext segments (buffer_injective left)

theorem feed_append (detector : Detector) (chunk more : Bytes) :
    detector.feed (chunk ++ more) =
      ((detector.feed chunk).1 ++ ((detector.feed chunk).2.feed more).1,
        ((detector.feed chunk).2.feed more).2) := by
  obtain ⟨segments, left⟩ := feed_eq_scan detector (chunk ++ more)
  obtain ⟨early, kept⟩ := feed_eq_scan detector chunk
  obtain ⟨late, last⟩ := feed_eq_scan (detector.feed chunk).2 more
  rw [← List.append_assoc, Segment.scan_append] at segments left
  rw [kept] at late last
  apply Prod.ext
  · rw [segments, early, late]
  · apply buffer_injective
    rw [left, last]

theorem detect_append (detector : Detector) (chunk more : Bytes) :
    detector.detect (chunk ++ more) =
      ((detector.detect chunk).1 ++ ((detector.detect chunk).2.detect more).1,
        ((detector.detect chunk).2.detect more).2) := by
  simp only [detect, feed_append, List.map_append]

theorem detectAll_eq_detect (detector : Detector) (chunks : List Bytes) :
    ((detectAll detector chunks).1, (detectAll detector chunks).2.2) =
      detector.detect chunks.flatten := by
  induction chunks generalizing detector with
  | nil => rfl
  | cons chunk rest ih =>
    have later := ih (detector.detect chunk).2
    rw [List.flatten_cons, detect_append, ← later]
    rfl

theorem detectAll_eq_scan (chunks : List Bytes) :
    (detectAll {} chunks).1 = (Segment.scan chunks.flatten).1.map Packet.ofSegment ∧
      (detectAll {} chunks).2.2.buffer = (Segment.scan chunks.flatten).2 := by
  have whole := detectAll_eq_detect {} chunks
  obtain ⟨segments, left⟩ := feed_eq_scan {} chunks.flatten
  have nothing : (({} : Detector).buffer ++ chunks.flatten) = chunks.flatten := rfl
  rw [nothing] at segments left
  have found := congrArg Prod.fst whole
  have last := congrArg Prod.snd whole
  dsimp only [detect] at found last
  rw [found, last, segments, left]
  exact ⟨rfl, rfl⟩

theorem scanAll_eq_scan (detector : Detector) (chunks : List Bytes) :
    Segment.scanAll detector.buffer chunks =
      Segment.scan (detector.buffer ++ chunks.flatten) := by
  induction chunks generalizing detector with
  | nil =>
    rw [List.flatten_nil, List.append_nil, Segment.scan_of_none detector.first?_buffer]
    rfl
  | cons chunk rest ih =>
    have later := ih (detector.feed chunk).2
    rw [(feed_eq_scan detector chunk).2] at later
    rw [List.flatten_cons, ← List.append_assoc, Segment.scan_append, ← later]
    rfl

/-- However a stream is cut into chunks, a detector reports the same packets and errors in the same
order and is left with the same bytes as if the stream came in one piece. So does one that keeps
only these bytes and scans them again with each chunk. -/
theorem detectAll_of_flatten_eq (detector : Detector) {stream : Bytes} {chunks pieces : List Bytes}
    (cut : chunks.flatten = stream) (recut : pieces.flatten = stream) :
    (detectAll detector chunks).1 = (detector.detect stream).1 ∧
      (detectAll detector chunks).2.2.buffer = (detector.detect stream).2.buffer ∧
      (detectAll detector pieces).1 = (detectAll detector chunks).1 ∧
      (detectAll detector pieces).2.2 = (detectAll detector chunks).2.2 ∧
      (Segment.scanAll detector.buffer pieces).1.map Packet.ofSegment =
        (detectAll detector chunks).1 ∧
      (Segment.scanAll detector.buffer pieces).2 = (detectAll detector chunks).2.2.buffer := by
  have first := detectAll_eq_detect detector chunks
  have second := detectAll_eq_detect detector pieces
  have again := scanAll_eq_scan detector pieces
  rw [cut] at first
  rw [recut] at second again
  rw [scan_buffer_append] at again
  have found : (detectAll detector chunks).1 = (detector.detect stream).1 :=
    congrArg Prod.fst first
  have last : (detectAll detector chunks).2.2 = (detector.detect stream).2 :=
    congrArg Prod.snd first
  rw [found, last, again]
  exact ⟨rfl, rfl, congrArg Prod.fst second, congrArg Prod.snd second, rfl, rfl⟩

/-- A broken header, a frame and the beginning of another header, once cut inside the first
separator with an empty chunk between, and once byte by byte. -/
theorem detectAll_bytewise :
    let content : Bytes := Utf8.bytes "\x7b\"method\":\"exit\"\x7d"
    let stream : Bytes := Utf8.bytes "Length: 2" ++ Header.separator ++ Segment.wrap content ++
      Utf8.bytes "Content-"
    let chunks : List Bytes := [stream.take 11, [], stream.drop 11]
    let pieces : List Bytes := stream.map fun byte => [byte]
    (detectAll {} pieces).1 = (detectAll {} chunks).1 ∧
      (detectAll {} pieces).2.2 = (detectAll {} chunks).2.2 ∧
      (detectAll {} chunks).1 =
        [.error (.header .missingContentLength), .ok (Packet.wrap content)] ∧
      (detectAll {} chunks).2.2.buffer = Utf8.bytes "Content-" := by
  intro content stream chunks pieces
  have cut : chunks.flatten = stream := by simp [chunks]
  have recut : pieces.flatten = stream := by decide +kernel
  obtain ⟨found, left, same, last, -⟩ := detectAll_of_flatten_eq {} cut recut
  rw [same, last, found, left]
  exact ⟨rfl, rfl, by decide +kernel, by decide +kernel⟩

end Detector

end LanguageClient
