import LanguageClient.Proofs.Message.Reread
import LanguageClient.Proofs.Packet.Segmentation
import LanguageClient.Proofs.Packet.Whole

set_option autoImplicit false

/-!
What holds of every packet, whichever way it was made. Its header declares the length of its
content. Its content is a message too, except that a message is packed without a look at what comes
of its bytes, and those of a message that is nested too deeply are refused.
-/

namespace LanguageClient

namespace Header

/-- The first line with the key writes the length, whether or not so much is accepted. -/
def Declares (header : Bytes) (length : Nat) : Prop :=
  ∃ line, (lines (Utf8.decodeLossy header)).find? (contentLengthKey.isPrefixOf ·) = some line ∧
    Decimal.value? (Decimal.unsigned (lineValue line)) = some length

theorem Declares.unique {header : Bytes} {length other : Nat} (declares : Declares header length)
    (also : Declares header other) : length = other := by
  obtain ⟨line, found, written⟩ := declares
  obtain ⟨again, same, reads⟩ := also
  rw [found, Option.some.injEq] at same
  rw [← same, written, Option.some.injEq] at reads
  exact reads

/-- What counts as the length of a header is what it declares, up to the limit. -/
theorem contentLength_eq_ok_iff {header : Bytes} {length : Nat} :
    contentLength header = .ok length ↔ Declares header length ∧ length ≤ contentLimit := by
  have limits : contentLimit < wordLimit := by decide
  unfold contentLength Declares
  cases (lines (Utf8.decodeLossy header)).find? (contentLengthKey.isPrefixOf ·) with
  | none => simp
  | some line =>
    simp only [Option.some.injEq, exists_eq_left', Decimal.below?_eq]
    cases Decimal.value? (Decimal.unsigned (lineValue line)) with
    | none => simp
    | some value =>
      rw [Option.filter_some, Option.some.injEq]
      by_cases word : value < wordLimit
      · simp only [word, decide_true, if_true]
        split
        · rename_i large
          simp only [reduceCtorEq, false_iff, not_and]
          omega
        · rename_i accepted
          rw [Except.ok.injEq]
          omega
      · simp only [word, decide_false, Bool.false_eq_true, if_false, reduceCtorEq, false_iff,
          not_and]
        omega

/-- The header that is written for a length declares it, however large it is. -/
theorem declares_ofLength (length : Nat) : Declares (ofLength length) length := by
  have text : Utf8.decodeLossy (ofLength length) = lengthLine length := Utf8.decodeLossy_encode _
  have oneLine : lines (lengthLine length) = [lengthLine length] :=
    lines_append_lengthLine List.not_mem_nil length
  have keyed : contentLengthKey.isPrefixOf (lengthLine length) = true :=
    (isPrefixOf_append_lengthLine [] length).trans (decide_eq_true (.inl rfl))
  have value : lineValue (lengthLine length) = Decimal.digits length :=
    lineValue_append_lengthLine [] length
  refine ⟨lengthLine length, ?_, ?_⟩
  · rw [text, oneLine, List.find?_cons, keyed]
  · rw [value, Decimal.value?_digits]

end Header

namespace Segment

theorem Segmentation.fits {stream rest : Bytes} {segments : List Segment}
    (cut : Segmentation stream segments rest) : ∀ segment ∈ segments, segment.Fits := by
  induction cut with
  | incomplete _ => exact List.forall_mem_nil _
  | segment fits _ _ ih => exact List.forall_mem_cons.mpr ⟨fits, ih⟩

theorem fits_of_mem_scan {data : Bytes} {segment : Segment} (mem : segment ∈ (scan data).1) :
    segment.Fits :=
  (segmentation_iff_scan.mpr rfl : Segmentation data (scan data).1 _).fits segment mem

end Segment

namespace Packet

/-- The ways to make a packet. -/
inductive Made : Packet → Prop where
  | ofContent {content : Bytes} {packet : Packet} (accepted : ofContent content = .ok packet) :
      Made packet
  | ofMessage (message : Message) : Made (ofMessage message)
  | parsed {data : Bytes} {packet : Packet} (found : parsePrefix data = .ok (some packet)) :
      Made packet
  | detected {detector : Detector} {chunk : Bytes} {packet : Packet}
      (found : .ok packet ∈ (detector.detect chunk).1) : Made packet

def Measured (packet : Packet) : Prop :=
  ∀ length, Header.Declares packet.header length ↔ length = packet.content.length

theorem measured_of_declares {packet : Packet}
    (declares : Header.Declares packet.header packet.content.length) : packet.Measured := by
  intro length
  constructor
  · exact fun also => also.unique declares
  · rintro rfl
    exact declares

theorem measured_wrap (content : Bytes) : (wrap content).Measured :=
  measured_of_declares (Header.declares_ofLength content.length)

theorem checked_eq_ok_iff {packet other : Packet} :
    packet.checked = .ok other ↔ packet = other ∧ ∃ message, packet.message = .ok message := by
  unfold checked
  cases packet.message with
  | ok message => simp [Except.map]
  | error cause => simp [Except.map]

/-- A packet of a segment holds what the segment declares, which was looked at. -/
theorem valid_of_segment {segment : Segment} {packet : Packet} (fits : segment.Fits)
    (accepted : ofSegment segment = .ok packet) :
    packet.Measured ∧ ∃ message, packet.message = .ok message := by
  cases fits with
  | empty => cases accepted
  | undeclared _ _ => cases accepted
  | framed _ declares _ =>
    obtain ⟨rfl, decodes⟩ := checked_eq_ok_iff.mp accepted
    exact ⟨measured_of_declares (Header.contentLength_eq_ok_iff.mp declares).1, decodes⟩

/-- The bytes of a message are refused if it is nested too deeply, and not otherwise. -/
theorem message_ofMessage (message : Message) :
    (ofMessage message).message =
      if message.toJson.depth ≤ Json.depthLimit then .ok message.reread
      else .error (.invalidContent (.invalidJson .tooDeep)) := by
  unfold Packet.message ofMessage wrap
  dsimp only
  rw [Message.decode_encode_eq]
  by_cases shallow : message.toJson.depth ≤ Json.depthLimit
  · rw [if_pos shallow, if_pos shallow]
  · rw [if_neg shallow, if_neg shallow]

theorem decodes_ofMessage_iff {message : Message} :
    (∃ found, (ofMessage message).message = .ok found) ↔ message.toJson.depth ≤ 127 := by
  have limit : Json.depthLimit = 127 := rfl
  rw [message_ofMessage, limit]
  by_cases shallow : message.toJson.depth ≤ 127
  · simp only [shallow, if_true, Except.ok.injEq, exists_eq']
  · simp only [shallow, if_false, reduceCtorEq, exists_false]

theorem eq_tooDeep_of_refused {message : Message} {cause : FramingError}
    (refused : (ofMessage message).message = .error cause) :
    cause = .invalidContent (.invalidJson .tooDeep) := by
  rw [message_ofMessage] at refused
  split at refused
  · cases refused
  · exact (Except.error.inj refused).symm

/-- Every way to make a packet measures its content, and all but one look at it. -/
theorem Made.measured_and_decodes_or_ofMessage {packet : Packet} (made : packet.Made) :
    packet.Measured ∧
      ((∃ message, packet.message = .ok message) ∨
        ∃ message, packet = Packet.ofMessage message) := by
  cases made with
  | ofContent accepted =>
    obtain ⟨rfl, decodes⟩ := checked_eq_ok_iff.mp accepted
    exact ⟨measured_wrap _, .inl decodes⟩
  | ofMessage message => exact ⟨measured_wrap _, .inr ⟨message, rfl⟩⟩
  | parsed found =>
    unfold parsePrefix at found
    split at found
    · cases found
    · rename_i segment rest first
      obtain ⟨inner, accepted, same⟩ := Json.Reader.exists_of_map found
      rw [Option.some.inj same] at accepted
      obtain ⟨measured, decodes⟩ :=
        valid_of_segment (Segment.first?_eq_some_iff.mp first).2.1 accepted
      exact ⟨measured, .inl decodes⟩
  | @detected detector chunk _ found =>
    obtain ⟨segment, mem, accepted⟩ := List.mem_map.mp found
    have scanned : segment ∈ (Segment.scan (detector.buffer ++ chunk)).1 :=
      (Detector.feed_eq_scan detector chunk).1 ▸ mem
    obtain ⟨measured, decodes⟩ := valid_of_segment (Segment.fits_of_mem_scan scanned) accepted
    exact ⟨measured, .inl decodes⟩

/-- A packet holds what its header declares, whichever way it was made. Its content is read as a
message unless it was packed from one that is nested too deeply, and only for that it is refused. -/
theorem Made.decodes_iff {packet : Packet} (made : packet.Made) :
    packet.Measured ∧
      ((∃ message, packet.message = .ok message) ↔
        ∀ message, packet = Packet.ofMessage message → message.toJson.depth ≤ 127) ∧
      ∀ cause, packet.message = .error cause → cause = .invalidContent (.invalidJson .tooDeep) := by
  obtain ⟨measured, decodes | ⟨message, rfl⟩⟩ := made.measured_and_decodes_or_ofMessage
  · refine ⟨measured, ⟨fun _ message packed => ?_, fun _ => decodes⟩, fun cause refused => ?_⟩
    · rw [packed] at decodes
      exact decodes_ofMessage_iff.mp decodes
    · obtain ⟨found, accepted⟩ := decodes
      rw [accepted] at refused
      cases refused
  · refine ⟨measured, ⟨fun decodes other packed => ?_, fun shallow => ?_⟩, ?_⟩
    · rw [packed] at decodes
      exact decodes_ofMessage_iff.mp decodes
    · exact decodes_ofMessage_iff.mpr (shallow message rfl)
    · exact fun cause refused => eq_tooDeep_of_refused refused

def nested (levels : Nat) : Message := .notification ⟨"m", some (.array [Message.brackets levels])⟩

theorem depth_nested (levels : Nat) : (nested levels).toJson.depth = levels + 2 := by
  simp [nested, Message.toJson, Message.paramsMember, Message.version, Params.toJson, Json.depth,
    Json.depthOfMembers, Json.depthOfElements, Message.depth_brackets]

/-- A packet from a stream, with two lines and a length with a sign, and one that was packed from a
notification of 128 levels. -/
theorem decodes_iff_of_parsed_and_nested :
    let content := Utf8.bytes "\x7b\"method\":\"exit\"\x7d"
    let parsed : Packet := ⟨Utf8.bytes "X: 1\r\nContent-Length: +17", content⟩
    parsePrefix (parsed.toBytes ++ content) = .ok (some parsed) ∧
      parsed.Measured ∧ (∃ message, parsed.message = .ok message) ∧
      (ofMessage (nested 126)).Measured ∧
      (ofMessage (nested 126)).message = .error (.invalidContent (.invalidJson .tooDeep)) := by
  intro content parsed
  have found : parsePrefix (parsed.toBytes ++ content) = .ok (some parsed) := by decide +kernel
  obtain ⟨measured, decodes, -⟩ := (Made.parsed found).decodes_iff
  obtain ⟨also, refused, only⟩ := (Made.ofMessage (nested 126)).decodes_iff
  refine ⟨found, measured, decodes.mpr fun message packed => ?_, also, ?_⟩
  · -- no message is packed with such a header
    have header := congrArg (fun packet => packet.header.head?) packed
    cases header
  · cases outcome : (ofMessage (nested 126)).message with
    | ok message =>
      have shallow := refused.mp ⟨message, outcome⟩ (nested 126) rfl
      rw [depth_nested] at shallow
      exact absurd shallow (by decide)
    | error cause => rw [only cause outcome]

/-- A notification of 128 levels is packed, and its packet is refused. -/
theorem not_decodes_of_nested :
    (ofMessage (nested 126)).message = .error (.invalidContent (.invalidJson .tooDeep)) ∧
      ¬ ∀ packet : Packet, packet.Made →
        packet.Measured ∧ ∃ message, packet.message = .ok message := by
  have deep : ¬ (nested 126).toJson.depth ≤ 127 := by
    rw [depth_nested]
    decide
  refine ⟨?_, fun all => ?_⟩
  · rw [message_ofMessage]
    exact if_neg deep
  · exact deep (decodes_ofMessage_iff.mp (all _ (.ofMessage (nested 126))).2)

end Packet

end LanguageClient
