import LanguageClient.Connection.Inbound
import LanguageClient.Proofs.Packet.Whole

set_option autoImplicit false

namespace LanguageClient

namespace Segment

def message? : Segment → Option Message
  | .unusable _ _ => none
  | .framed _ content =>
    match Message.decode content with
    | .ok message => some message
    | .error _ => none

def events (segment : Segment) : List Event :=
  match segment.message? with
  | none => []
  | some message => (Emission.ofMessage message).events

/-- Only a frame whose content is a message makes an event. -/
theorem events_ofDetected (segment : Segment) :
    (Emission.ofDetected (Packet.ofSegment segment)).events = segment.events := by
  cases segment with
  | unusable header error => rfl
  | framed header content =>
    cases decoded : Message.decode content with
    | ok message =>
      simp [Packet.ofSegment, Packet.checked, Packet.message, Emission.ofDetected, events, message?,
        decoded, Except.map]
    | error cause =>
      simp [Packet.ofSegment, Packet.checked, Packet.message, Emission.ofDetected, events, message?,
        decoded, Except.map]

end Segment

namespace Inbound

def heard (reads : List Bytes) (ending : Ending) : List Event :=
  let (emission, inbound, _) := takeAll true {} reads
  emission.events ++ (inbound.finish true ending).1.events

theorem events_take (inbound : Inbound) (chunk : Bytes) :
    (inbound.take true chunk).1.events =
      (inbound.detector.detect chunk).1.flatMap fun found =>
        (Emission.ofDetected found).events := by
  simp [take, Emission.heard, Emission.concat, List.flatMap_map]

/-- A reader with a client goes on to read, and hears what its detector finds. -/
theorem takeAll_true (inbound : Inbound) (reads : List Bytes) (running : inbound.reading = true) :
    (takeAll true inbound reads).1.events =
        (Detector.detectAll inbound.detector reads).1.flatMap
          (fun found => (Emission.ofDetected found).events) ∧
      (takeAll true inbound reads).2.1.reading = true := by
  induction reads generalizing inbound with
  | nil => exact ⟨rfl, running⟩
  | cons chunk rest ih =>
    obtain ⟨events, still⟩ := ih (inbound.take true chunk).2 running
    have left : (inbound.take true chunk).2.detector = (inbound.detector.detect chunk).2 := rfl
    simp only [takeAll, running, if_true, Emission.events_append, events_take, events, left]
    refine ⟨?_, still⟩
    simp only [Detector.detectAll, List.flatMap_append]

/-- A stream that is read to its end is heard segment by segment, whatever its reads. -/
theorem heard_eq_scan (reads : List Bytes) (ending : Ending) :
    heard reads ending =
      (Segment.scan reads.flatten).1.flatMap Segment.events ++ [.closed ending.error] := by
  obtain ⟨events, running⟩ := takeAll_true {} reads rfl
  have found := (Detector.detectAll_eq_scan reads).1
  simp only [heard, finish, running, if_true, events, found, List.flatMap_map,
    Segment.events_ofDetected]
  rfl

theorem heard_of_whole {reads : List Bytes} {segments : List Segment}
    (whole : ∀ segment ∈ segments, segment.Whole)
    (written : reads.flatten = segments.flatMap Segment.bytes) (ending : Ending) :
    heard reads ending = segments.flatMap Segment.events ++ [.closed ending.error] := by
  rw [heard_eq_scan, written, Segment.scan_flatMap_bytes whole]

end Inbound

end LanguageClient
