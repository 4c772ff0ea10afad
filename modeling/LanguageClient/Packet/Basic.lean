import LanguageClient.Message.Json
import LanguageClient.Packet.Segment

set_option autoImplicit false

namespace LanguageClient

structure Packet where
  header : Bytes
  content : Bytes
deriving DecidableEq

namespace Packet

/-- The packet around some content, whether or not that is a message. -/
def wrap (content : Bytes) : Packet := ⟨Header.ofLength content.length, content⟩

def ofMessage (message : Message) : Packet := wrap message.encode

def message (packet : Packet) : Except FramingError Message :=
  match Message.decode packet.content with
  | .ok message => .ok message
  | .error cause => .error (.invalidContent cause)

def checked (packet : Packet) : Except FramingError Packet := packet.message.map fun _ => packet

def ofContent (content : Bytes) : Except FramingError Packet := (wrap content).checked

/-- The packet of a segment; the header of a frame is kept as it is. -/
def ofSegment : Segment → Except FramingError Packet
  | .unusable _ error => .error (.header error)
  | .framed header content => checked ⟨header, content⟩

/-- The packet at the front of the bytes; `none` while it is incomplete. -/
def parsePrefix (data : Bytes) : Except FramingError (Option Packet) :=
  match Segment.first? data with
  | none => .ok none
  | some (segment, _) => (ofSegment segment).map some

def toBytes (packet : Packet) : Bytes := packet.header ++ Header.separator ++ packet.content

def size (packet : Packet) : Nat :=
  packet.header.length + Header.separator.length + packet.content.length

end Packet

end LanguageClient
