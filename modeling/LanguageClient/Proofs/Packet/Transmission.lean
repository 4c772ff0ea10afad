import LanguageClient.Proofs.Message.RoundTrip
import LanguageClient.Proofs.Packet.Whole

set_option autoImplicit false

namespace LanguageClient

namespace Packet

theorem message_of_decode (packet : Packet) {message : Message}
    (decoded : Message.decode packet.content = .ok message) : packet.message = .ok message := by
  rw [Packet.message, decoded]

theorem ofSegment_of_decode {header content : Bytes} {message : Message}
    (decoded : Message.decode content = .ok message) :
    ofSegment (.framed header content) = .ok ⟨header, content⟩ := by
  have found := message_of_decode ⟨header, content⟩ decoded
  rw [ofSegment, checked, found]
  rfl

/-- What can be sent: what a message carries comes back from its text, and the message is neither
nested too deeply nor too long. -/
structure Sendable (message : Message) : Prop where
  restorable : ∀ value ∈ message.carried, value.Restorable
  shallow : message.toJson.depth ≤ 127
  short : message.encode.length ≤ Header.contentLimit

/-- Every message of a row arrives, in order and as it was sent, and nothing else does. -/
theorem messages_detectAll {messages : List Message} {chunks : List Bytes}
    (sendable : ∀ message ∈ messages, Sendable message)
    (cut : chunks.flatten = messages.flatMap fun message => (ofMessage message).toBytes) :
    ∃ packets : List Packet,
      (Detector.detectAll {} chunks).1 = packets.map .ok ∧
        packets.map Packet.message = messages.map .ok ∧
        (Detector.detectAll {} chunks).2.2.buffer = [] := by
  have decoded (message : Message) (mem : message ∈ messages) :
      Message.decode message.encode = .ok message := by
    rw [Message.decode_encode (sendable message mem).restorable]
    exact if_pos (sendable message mem).shallow
  have whole : ∀ segment ∈ messages.map fun message => Segment.frame message.encode,
      segment.Whole := by
    rw [List.forall_mem_map]
    exact fun message mem => Segment.whole_frame (sendable message mem).short
  have written : chunks.flatten =
      (messages.map fun message => Segment.frame message.encode).flatMap Segment.bytes := by
    rw [cut, List.flatMap_map]
    rfl
  obtain ⟨found, left⟩ := Detector.detectAll_eq_scan chunks
  rw [written, Segment.scan_flatMap_bytes whole, List.map_map] at found
  rw [written, Segment.scan_flatMap_bytes whole] at left
  refine ⟨messages.map ofMessage, ?_, ?_, left⟩
  · rw [found, List.map_map]
    exact List.map_congr_left fun message mem => ofSegment_of_decode (decoded message mem)
  · rw [List.map_map]
    exact List.map_congr_left fun message mem => message_of_decode _ (decoded message mem)

/-- Three messages, one with a blank line and a header in its method, that arrive byte by byte. -/
theorem messages_detectAll_bytewise :
    let messages : List Message :=
      [.notification ⟨"\r\n\r\nContent-Length: 2\r\n\r\n", some (.object [])⟩,
        .response ⟨some (.text "é"), .error ⟨-1, "e", some .null⟩⟩,
        .request ⟨.number Int64.minValue, "m", some (.array [.ofInt64 Int64.maxValue])⟩]
    let stream : Bytes := messages.flatMap fun message => (ofMessage message).toBytes
    ∃ packets : List Packet,
      (Detector.detectAll {} (stream.map fun byte => [byte])).1 = packets.map .ok ∧
        packets.map Packet.message = messages.map .ok ∧
        (Detector.detectAll {} (stream.map fun byte => [byte])).2.2.buffer = [] := by
  intro messages stream
  have cut : (stream.map fun byte => [byte]).flatten = stream :=
    List.flatMap_singleton' stream
  refine messages_detectAll ?_ cut
  simp only [messages, List.forall_mem_cons]
  refine ⟨⟨?_, by decide, by decide +kernel⟩, ⟨?_, by decide, by decide +kernel⟩,
    ⟨?_, by decide, by decide +kernel⟩, nofun⟩
  · exact List.forall_mem_singleton.mpr ⟨⟨List.Pairwise.nil, trivial⟩, nofun⟩
  · exact List.forall_mem_singleton.mpr Json.restorable_null
  · exact List.forall_mem_singleton.mpr (Json.restorable_array_iff.mpr
      (List.forall_mem_singleton.mpr (Json.restorable_ofInt64 _)))

end Packet

end LanguageClient
