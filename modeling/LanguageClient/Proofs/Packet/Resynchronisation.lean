import LanguageClient.Proofs.Json.Printable
import LanguageClient.Proofs.Packet.Transmission

set_option autoImplicit false

/-!
What becomes of a stream after a header that declares no usable length. Only the header and its
separator are dropped, so the body that was sent with it stands in front of the next header and
takes its length away, unless that body is empty or begins like a header itself. Then the next
content is without a header in the same way, and so on to the end of the stream.
-/

namespace LanguageClient

namespace Header

/-- No message begins like a header. -/
theorem not_harmless_of_decode {content : Bytes} {message : Message}
    (decoded : Message.decode content = .ok message) : ¬ Harmless content := by
  rintro (rfl | ⟨rest, rfl⟩)
  · cases decoded
  · have written : keyBytes ++ rest = 0x43 :: (keyBytes.tail ++ rest) := rfl
    have refused : Json.parse (0x43 :: (keyBytes.tail ++ rest)) = .error .valueExpected := by
      rw [Json.parse, Json.readValue_eq]
      rfl
    rw [Message.decode, written, refused] at decoded
    cases decoded

end Header

namespace Segment

variable {front : Bytes}

theorem unbroken_append_ofLength (oneLine : 0x0D ∉ front) (length : Nat) :
    ¬ Header.separator <:+: front ++ Header.ofLength length ++ Header.separator.dropLast := by
  apply Header.unbroken_of_not_mem
  rw [List.mem_append, not_or]
  exact ⟨oneLine, Header.not_mem_ofLength length⟩

/-- Behind harmless bytes a content that was sent is found, under a longer header. -/
theorem scan_of_harmless {content : Bytes} {later : List Bytes} (oneLine : 0x0D ∉ front)
    (harmless : Header.Harmless front)
    (accepted : ∀ sent ∈ content :: later, sent.length ≤ Header.contentLimit) :
    scan (front ++ (content :: later).flatMap wrap) =
      (.framed (front ++ Header.ofLength content.length) content :: later.map frame, []) := by
  obtain ⟨first, others⟩ := List.forall_mem_cons.mp accepted
  have declares := Header.declared_append_ofLength oneLine first
  rw [if_pos harmless] at declares
  have whole : ∀ segment ∈ framed (front ++ Header.ofLength content.length) content ::
      later.map frame, segment.Whole := by
    rw [List.forall_mem_cons, List.forall_mem_map]
    exact ⟨⟨unbroken_append_ofLength oneLine _, declares⟩,
      fun sent mem => whole_frame (others sent mem)⟩
  have frames : later.flatMap wrap = (later.map frame).flatMap bytes := by
    rw [List.flatMap_map]
    rfl
  have written : front ++ (content :: later).flatMap wrap =
      (framed (front ++ Header.ofLength content.length) content ::
        later.map frame).flatMap bytes := by
    rw [List.flatMap_cons, List.flatMap_cons, frames]
    simp only [wrap, bytes, List.append_assoc]
  rw [written, scan_flatMap_bytes whole]

/-- Behind other bytes a header loses its length, and the content that it was sent for is left. -/
theorem first?_of_harmful (oneLine : 0x0D ∉ front) (harmful : ¬ Header.Harmless front)
    {content : Bytes} (accepted : content.length ≤ Header.contentLimit) (rest : Bytes) :
    first? (front ++ (wrap content ++ rest)) =
      some (.unusable (front ++ Header.ofLength content.length) .missingContentLength,
        content ++ rest) := by
  have declares := Header.declared_append_ofLength oneLine accepted
  rw [if_neg harmful] at declares
  have whole : (unusable (front ++ Header.ofLength content.length)
      .missingContentLength).Whole := ⟨unbroken_append_ofLength oneLine _, declares⟩
  rw [← first?_bytes whole]
  simp only [wrap, bytes, List.append_assoc]

theorem scan_of_no_return (oneLine : 0x0D ∉ front) : scan front = ([], front) := by
  have absent : ¬ Header.separator <:+: front := fun inside =>
    oneLine (inside.subset (List.mem_cons_self ..))
  apply scan_of_none
  rw [first?, Split.first?_eq_none_iff.mpr absent]

/-- Each content that is left is in front of the next header: no frame is found any more. -/
theorem scan_of_harmful {contents : List Bytes} (oneLine : 0x0D ∉ front)
    (harmful : ¬ Header.Harmless front)
    (accepted : ∀ content ∈ contents, content.length ≤ Header.contentLimit)
    (oneLines : ∀ content ∈ contents, 0x0D ∉ content)
    (harmfuls : ∀ content ∈ contents, ¬ Header.Harmless content) :
    (scan (front ++ contents.flatMap wrap)).1.map Packet.ofSegment =
        List.replicate contents.length (.error (.header .missingContentLength)) ∧
      (scan (front ++ contents.flatMap wrap)).2 = contents.getLastD front := by
  induction contents generalizing front with
  | nil =>
    rw [List.flatMap_nil, List.append_nil, scan_of_no_return oneLine]
    exact ⟨rfl, rfl⟩
  | cons content later ih =>
    rw [List.forall_mem_cons] at accepted oneLines harmfuls
    obtain ⟨reports, left⟩ :=
      ih oneLines.1 harmfuls.1 accepted.2 oneLines.2 harmfuls.2
    -- the content of the lost header takes the place of the bytes in front
    rw [List.flatMap_cons,
      scan_of_some (first?_of_harmful oneLine harmful accepted.1 (later.flatMap wrap))]
    refine ⟨congrArg _ reports, ?_⟩
    rw [List.getLastD_cons]
    exact left

end Segment

namespace Packet

structure Acceptable (content : Bytes) : Prop where
  isMessage : ∃ message, Message.decode content = .ok message
  short : content.length ≤ Header.contentLimit

theorem Acceptable.ofSegment {content : Bytes} (acceptable : Acceptable content) (header : Bytes) :
    ofSegment (.framed header content) = .ok ⟨header, content⟩ :=
  let ⟨_, decoded⟩ := acceptable.isMessage
  ofSegment_of_decode decoded

theorem Acceptable.harmful {content : Bytes} (acceptable : Acceptable content) :
    ¬ Header.Harmless content :=
  let ⟨_, decoded⟩ := acceptable.isMessage
  Header.not_harmless_of_decode decoded

/-- So is every message that can be sent, and it is one line. -/
theorem Sendable.acceptable {message : Message} (sendable : Sendable message) :
    Acceptable message.encode ∧ 0x0D ∉ message.encode := by
  refine ⟨⟨⟨message, ?_⟩, sendable.short⟩, Json.not_mem_encode (by decide) _⟩
  rw [Message.decode_encode sendable.restorable]
  exact if_pos sendable.shallow

theorem sendable_notification {method : String}
    (short : (Message.notification ⟨method, none⟩).encode.length ≤ Header.contentLimit) :
    Sendable (.notification ⟨method, none⟩) :=
  ⟨nofun, Nat.le_of_ble_eq_true rfl, short⟩

end Packet

namespace Detector

/-- What a detector finds behind an unusable header hangs on the body that was sent with it. If it
is harmless, every message that follows is found. If it is not, and every content is one line as all
that are written are, then none is found: each header is reported to declare no length, and the last
content waits for more. -/
theorem detectAll_of_unusable {header body content : Bytes} {error : HeaderError}
    {later chunks : List Bytes} (unusable : (Segment.unusable header error).Whole)
    (oneLine : 0x0D ∉ body) (acceptable : ∀ sent ∈ content :: later, Packet.Acceptable sent)
    (cut : chunks.flatten =
      header ++ Header.separator ++ (body ++ (content :: later).flatMap Segment.wrap)) :
    (Header.Harmless body →
      (detectAll {} chunks).1 = .error (.header error) ::
          .ok ⟨body ++ Header.ofLength content.length, content⟩ ::
            later.map (fun sent => .ok (Packet.wrap sent)) ∧
        (detectAll {} chunks).2.2.buffer = []) ∧
      (¬ Header.Harmless body → (∀ sent ∈ content :: later, 0x0D ∉ sent) →
        (detectAll {} chunks).1 = .error (.header error) ::
            List.replicate (later.length + 1) (.error (.header .missingContentLength)) ∧
          (detectAll {} chunks).2.2.buffer = later.getLastD content) := by
  have short (sent : Bytes) (mem : sent ∈ content :: later) :
      sent.length ≤ Header.contentLimit := (acceptable sent mem).short
  have first : Segment.first? chunks.flatten = some (.unusable header error,
      body ++ (content :: later).flatMap Segment.wrap) := by
    rw [cut]
    exact Segment.first?_bytes unusable _
  obtain ⟨found, left⟩ := detectAll_eq_scan chunks
  rw [Segment.scan_of_some first] at found left
  constructor
  · intro harmless
    rw [Segment.scan_of_harmless oneLine harmless short] at found left
    refine ⟨?_, left⟩
    rw [found, List.map_cons, List.map_cons, List.map_map,
      (acceptable content (List.mem_cons_self ..)).ofSegment]
    refine congrArg (_ :: _ :: ·) (List.map_congr_left fun sent mem => ?_)
    exact (acceptable sent (List.mem_cons_of_mem _ mem)).ofSegment _
  · intro harmful oneLines
    obtain ⟨reports, rest⟩ := Segment.scan_of_harmful oneLine harmful short oneLines
      fun sent mem => (acceptable sent mem).harmful
    rw [found, left, List.map_cons, reports, rest, List.getLastD_cons]
    exact ⟨rfl, rfl⟩

/-- A length that is no number, with two bodies: braces, and what could be a header. -/
theorem detectAll_of_unusable_bodies :
    let sent (method : String) : Bytes := (Message.notification ⟨method, none⟩).encode
    let stream (body : String) : Bytes := Utf8.bytes "Content-Length: abc" ++ Header.separator ++
      (Utf8.bytes body ++ [sent "a", sent "b", sent "c"].flatMap Segment.wrap)
    let longer : Bytes := Utf8.bytes "Content-Length: 2" ++ Header.ofLength (sent "a").length
    let lost : Detected := .error (.header .missingContentLength)
    (detectAll {} [stream "\x7b\x7d"]).1 =
        [.error (.header (.invalidContentLength "abc")), lost, lost, lost] ∧
      (detectAll {} [stream "\x7b\x7d"]).2.2.buffer = sent "c" ∧
      (detectAll {} [stream "Content-Length: 2"]).1 =
        [.error (.header (.invalidContentLength "abc")), .ok ⟨longer, sent "a"⟩,
          .ok (Packet.wrap (sent "b")), .ok (Packet.wrap (sent "c"))] ∧
      (detectAll {} [stream "Content-Length: 2"]).2.2.buffer = [] := by
  intro sent stream longer lost
  have unusable : (Segment.unusable (Utf8.bytes "Content-Length: abc")
      (.invalidContentLength "abc")).Whole :=
    ⟨Header.unbroken_of_not_mem (by decide), by decide +kernel⟩
  have all : ∀ content ∈ [sent "a", sent "b", sent "c"],
      Packet.Acceptable content ∧ 0x0D ∉ content := by
    simp only [List.forall_mem_cons]
    exact ⟨(Packet.sendable_notification (by decide +kernel)).acceptable,
      (Packet.sendable_notification (by decide +kernel)).acceptable,
      (Packet.sendable_notification (by decide +kernel)).acceptable, List.forall_mem_nil _⟩
  have whole (body : String) : [stream body].flatten = stream body := List.append_nil _
  obtain ⟨-, lose⟩ := detectAll_of_unusable unusable (by decide +kernel)
    (fun content mem => (all content mem).1) (whole "\x7b\x7d")
  obtain ⟨keep, -⟩ := detectAll_of_unusable unusable (by decide +kernel)
    (fun content mem => (all content mem).1) (whole "Content-Length: 2")
  obtain ⟨reports, left⟩ := lose (by decide +kernel) fun content mem => (all content mem).2
  obtain ⟨found, nothing⟩ := keep (by decide +kernel)
  exact ⟨reports, left, found, nothing⟩

/-- An unusable header with a body can cost all the messages behind it, and not just the next. -/
theorem not_resynchronised_after_next :
    ¬ ∀ (header body : Bytes) (error : HeaderError) (contents chunks : List Bytes),
      (Segment.unusable header error).Whole → 0x0D ∉ body →
        (∀ content ∈ contents, Packet.Acceptable content) → 2 ≤ contents.length →
          chunks.flatten = header ++ Header.separator ++ (body ++ contents.flatMap Segment.wrap) →
            contents.tail.Sublist ((packets (detectAll {} chunks).1).map Packet.content) := by
  intro resynchronised
  let header := Utf8.bytes "Content-Length: abc"
  let body := Utf8.bytes "\x7b\x7d"
  let sent (method : String) : Bytes := (Message.notification ⟨method, none⟩).encode
  let stream := header ++ Header.separator ++
    (body ++ [sent "a", sent "b", sent "c"].flatMap Segment.wrap)
  have unusable : (Segment.unusable header (.invalidContentLength "abc")).Whole :=
    ⟨Header.unbroken_of_not_mem (by decide), by decide +kernel⟩
  have all : ∀ content ∈ [sent "a", sent "b", sent "c"],
      Packet.Acceptable content ∧ 0x0D ∉ content := by
    simp only [List.forall_mem_cons]
    exact ⟨(Packet.sendable_notification (by decide +kernel)).acceptable,
      (Packet.sendable_notification (by decide +kernel)).acceptable,
      (Packet.sendable_notification (by decide +kernel)).acceptable, List.forall_mem_nil _⟩
  have found := resynchronised header body _ [sent "a", sent "b", sent "c"] [stream] unusable
    (by decide +kernel) (fun content mem => (all content mem).1) (by decide)
    (List.append_nil stream)
  have nothing : packets (detectAll {} [stream]).1 = [] := by decide +kernel
  rw [nothing] at found
  cases found

end Detector

end LanguageClient
