import LanguageClient.Proofs.Connection.Reading
import LanguageClient.Proofs.Packet.Segmentation

set_option autoImplicit false

namespace LanguageClient

/-- The event that a message of the server makes. A request of the server is not answered; it is
reported with its text. -/
inductive Announces : Message → Event → Prop where
  | response (response : Response) : Announces (.response response) (.response response)
  | notification (notification : Notification) :
      Announces (.notification notification) (.notification notification)
  | request (request : Request) :
      Announces (.request request) (.errorOutput
        ("Unsupported request from LSP server: " ++ (Message.request request).render))

namespace Announces

theorem exists_ofMessage (message : Message) :
    ∃ event, Announces message event ∧ (Emission.ofMessage message).events = [event] := by
  cases message with
  | request request => exact ⟨_, .request request, rfl⟩
  | response response => exact ⟨_, .response response, rfl⟩
  | notification notification => exact ⟨_, .notification notification, rfl⟩

theorem exists_ofMessages (messages : List Message) :
    ∃ announced, List.Forall₂ Announces messages announced ∧
      messages.flatMap (fun message => (Emission.ofMessage message).events) = announced := by
  induction messages with
  | nil => exact ⟨[], .nil, rfl⟩
  | cons message messages ih =>
    obtain ⟨event, announces, made⟩ := exists_ofMessage message
    obtain ⟨later, announced, rest⟩ := ih
    refine ⟨event :: later, .cons announces announced, ?_⟩
    rw [List.flatMap_cons, made, rest, List.singleton_append]

theorem closed_not_mem {messages : List Message} {announced : List Event}
    (announces : List.Forall₂ Announces messages announced) (error : TransportError) :
    .closed error ∉ announced := by
  induction announces with
  | nil => exact List.not_mem_nil
  | cons first _ ih =>
    rw [List.mem_cons, not_or]
    refine ⟨?_, ih⟩
    rintro rfl
    cases first

end Announces

namespace Segment

theorem flatMap_events (segments : List Segment) :
    segments.flatMap events = (segments.filterMap message?).flatMap fun message =>
      (Emission.ofMessage message).events := by
  induction segments with
  | nil => rfl
  | cons segment segments ih =>
    rw [List.flatMap_cons, ih, events]
    cases decoded : segment.message? with
    | none => rw [List.filterMap_cons_none decoded, List.nil_append]
    | some message => rw [List.filterMap_cons_some decoded, List.flatMap_cons]

theorem origin_of_record? {segment : Segment} {record : Log.Record}
    (made : segment.record? = some record) : record.origin = .detector := by
  unfold record? at made
  split at made
  · cases made
  · cases made
    rfl
  · cases made
    rfl

/-- Of a segment that was looked at when it was detected nothing is recorded but that a request of
the server is not answered. -/
theorem origin_ofDetected {segment : Segment} {record : Log.Record}
    (made : record ∈ (Emission.ofDetected (Packet.ofSegment segment)).log) :
    record.origin = .events := by
  cases reports : Packet.ofSegment segment with
  | error cause =>
    rw [reports] at made
    cases made
  | ok packet =>
    obtain ⟨message, decoded⟩ : ∃ message, packet.message = .ok message := by
      have looked := reports_ofSegment segment
      rw [reports] at looked
      cases looked with
      | packet decoded => exact ⟨_, by rw [Packet.message, decoded]⟩
    rw [reports, Emission.ofDetected, decoded] at made
    cases message with
    | request request =>
      rw [List.mem_singleton.mp made]
    | response response => cases made
    | notification notification => cases made

end Segment

namespace Detector

theorem origin_of_mem_log {detector : Detector} {chunk : Bytes} {record : Log.Record}
    (made : record ∈ detector.log chunk) : record.origin = .detector := by
  rcases List.mem_append.mp made with dropped | waits
  · obtain ⟨segment, -, same⟩ := List.mem_filterMap.mp dropped
    exact Segment.origin_of_record? same
  · unfold waiting at waits
    split at waits
    · cases waits
    · rw [List.mem_singleton.mp waits]

end Detector

namespace Inbound

/-- What would be recorded of a packet that is refused when it is decoded for its event. -/
def undecoded (error : FramingError) : Log.Record :=
  ⟨.error, .stream, "Failed to decode LSP packet: " ++ error.message⟩

def recorded (reads : List Bytes) (ending : Ending) : Log :=
  let (emission, inbound, _) := takeAll true {} reads
  emission.log ++ (inbound.finish true ending).1.log

/-- While it reads, a reader records nothing of its own. -/
theorem origin_of_mem_take {inbound : Inbound} {chunk : Bytes} {record : Log.Record}
    (made : record ∈ (inbound.take true chunk).1.log) : record.origin ≠ .stream := by
  have parts : (inbound.take true chunk).1.log = inbound.detector.log chunk ++
      (inbound.detector.feed chunk).1.flatMap fun segment =>
        (Emission.ofDetected (Packet.ofSegment segment)).log := by
    simp [take, Detector.detect, Emission.heard, Emission.concat, List.flatMap_map]
  rw [parts] at made
  rcases List.mem_append.mp made with detected | announced
  · rw [Detector.origin_of_mem_log detected]
    decide
  · obtain ⟨segment, -, made⟩ := List.mem_flatMap.mp announced
    rw [Segment.origin_ofDetected made]
    decide

theorem origin_of_mem_takeAll {inbound : Inbound} {reads : List Bytes} {record : Log.Record}
    (running : inbound.reading = true) (made : record ∈ (takeAll true inbound reads).1.log) :
    record.origin ≠ .stream := by
  induction reads generalizing inbound with
  | nil => cases made
  | cons chunk rest ih =>
    simp only [takeAll, running, if_true, Emission.log_append] at made
    rcases List.mem_append.mp made with now | later
    · exact origin_of_mem_take now
    · exact @ih (inbound.take true chunk).2 running later

theorem undecoded_not_mem_recorded (reads : List Bytes) (ending : Ending) (error : FramingError) :
    undecoded error ∉ recorded reads ending := by
  have running := (takeAll_true {} reads rfl).2
  intro made
  rcases List.mem_append.mp made with before | last
  · exact origin_of_mem_takeAll rfl before rfl
  · simp only [finish, running, if_true, Emission.heard, Emission.ofEvent, Emission.log_append,
      List.append_nil, List.mem_singleton] at last
    cases ending with
    | closed => cases last
    | failed reason =>
      have texts := congrArg (fun record => record.text.toList) last
      simp [undecoded, Ending.record] at texts

theorem takeAll_of_done {inbound : Inbound} (done : inbound.reading = false) (reads : List Bytes) :
    (takeAll true inbound reads).1 = {} := by
  cases reads with
  | nil => rfl
  | cons chunk rest => simp [takeAll, done]

theorem finish_of_done {inbound : Inbound} (done : inbound.reading = false) (ending : Ending) :
    (inbound.finish true ending).1 = {} := by
  simp [finish, done]

/-- Whatever reads a stream arrives in, a client that listens hears one event for each packet of it
that holds a message, in their order, and then that the connection is closed, however the stream
ends. Nothing else is heard and nothing after it, the reads make no difference, and no packet is
refused that the detector let pass. -/
theorem heard_of_stream {stream : Bytes} {reads others : List Bytes}
    (arrives : reads.flatten = stream) (also : others.flatten = stream) :
    ∃ (segments : List Segment) (rest : Bytes) (announced : List Event),
      Segment.Segmentation stream segments rest ∧
      List.Forall₂ Announces (segments.filterMap Segment.message?) announced ∧
      (∀ error, .closed error ∉ announced) ∧
      ∀ ending,
        heard reads ending = announced ++ [.closed ending.error] ∧
        heard others ending = announced ++ [.closed ending.error] ∧
        (∀ error, undecoded error ∉ recorded reads ending) ∧
        let last := ((takeAll true {} reads).2.1.finish true ending).2
        (∀ more, (takeAll true last more).1 = {}) ∧ ∀ again, (last.finish true again).1 = {} := by
  obtain ⟨announced, announces, made⟩ :=
    Announces.exists_ofMessages ((Segment.scan stream).1.filterMap Segment.message?)
  have events : (Segment.scan stream).1.flatMap Segment.events = announced := by
    rw [Segment.flatMap_events, made]
  refine ⟨_, _, announced, Segment.segmentation_iff_scan.mpr rfl, announces,
    Announces.closed_not_mem announces, fun ending => ⟨?_, ?_, ?_, ?_⟩⟩
  · rw [heard_eq_scan, arrives, events]
  · rw [heard_eq_scan, also, events]
  · exact undecoded_not_mem_recorded reads ending
  · have done : ((takeAll true {} reads).2.1.finish true ending).2.reading = false := by
      rw [finish, if_pos (takeAll_true {} reads rfl).2]
    exact ⟨takeAll_of_done done, finish_of_done done⟩

/-- A request of the server, content that is no message, a header without a length, a response and
the beginning of a packet, once cut inside a separator and once byte by byte. The stream breaks
off. -/
theorem heard_of_stream_with_garbage :
    let stream := Segment.wrap (Utf8.bytes "\x7b\"id\":\"q\",\"method\":\"m\"\x7d") ++
      Segment.wrap (Utf8.bytes "null") ++ Utf8.bytes "Length: 2" ++ Header.separator ++
      Segment.wrap (Utf8.bytes "\x7b\"id\":null,\"result\":[]\x7d") ++
      Utf8.bytes "Content-Length: 4"
    let reads := [stream.take 20, [], stream.drop 20]
    let others := stream.map fun byte => [byte]
    heard reads (.failed "reset") = heard others (.failed "reset") ∧
      heard reads (.failed "reset") =
        [.errorOutput ("Unsupported request from LSP server: " ++
          "\x7b\"id\":\"q\",\"jsonrpc\":\"2.0\",\"method\":\"m\"\x7d"),
          .response ⟨none, .ok (.array [])⟩, .closed (.io "reset")] ∧
      ∀ error, undecoded error ∉ recorded reads (.failed "reset") := by
  intro stream reads others
  have cut : reads.flatten = stream := by simp [reads]
  have recut : others.flatten = stream := by decide +kernel
  obtain ⟨_, _, _, -, -, -, ends⟩ := heard_of_stream cut recut
  obtain ⟨first, second, silent, -⟩ := ends (.failed "reset")
  exact ⟨first.trans second.symm, by decide +kernel, silent⟩

end Inbound

end LanguageClient
