import LanguageClient.Connection.Event
import LanguageClient.Packet.Detector

set_option autoImplicit false

/-!
From the bytes that a server writes to events. Each packet makes one event; bytes that are no
packet make none. The end of the stream closes the connection, and a reader whose client is gone
stops by itself after the read in which it notices.
-/

namespace LanguageClient

inductive Ending where
  | closed
  | failed (reason : String)
deriving DecidableEq

def Ending.error : Ending → TransportError
  | .closed => .closed "server closed its output stream"
  | .failed reason => .io reason

def Ending.record : Ending → Log.Record
  | .closed => ⟨.warn, .stream, "LSP server output closed"⟩
  | .failed reason => ⟨.error, .stream, "Failed to read from LSP server: " ++ reason⟩

/-- What was detected as an event. Bytes without a packet were reported when they were dropped. -/
def Emission.ofDetected : Detected → Emission
  | .error _ => {}
  | .ok packet =>
    match packet.message with
    | .ok message => .ofMessage message
    | .error error =>
      { log := [⟨.error, .stream, "Failed to decode LSP packet: " ++ error.message⟩] }

structure Inbound where
  detector : Detector := {}
  reading : Bool := true
deriving DecidableEq

namespace Inbound

def readLimit : Nat := 8 * 1024

/-- The reads that take up some bytes. -/
def chunks (data : Bytes) : List Bytes :=
  if data = [] then [] else data.take readLimit :: chunks (data.drop readLimit)
termination_by data.length
decreasing_by
  rename_i nonempty
  have := List.length_pos_iff.mpr nonempty
  simp only [List.length_drop, readLimit]
  omega

def stopped : Log.Record :=
  ⟨.debug, .stream, "LSP client gone, stop reading server output"⟩

def take (listening : Bool) (inbound : Inbound) (chunk : Bytes) : Emission × Inbound :=
  let (found, detector) := inbound.detector.detect chunk
  let emission := { log := inbound.detector.log chunk } ++
    (Emission.concat (found.map .ofDetected)).heard listening
  if listening then (emission, { inbound with detector := detector })
  else (emission ++ { log := [stopped] }, ⟨detector, false⟩)

/-- Takes up reads while the reader runs; what is left when it stops stays unread. -/
def takeAll (listening : Bool) : Inbound → List Bytes → Emission × Inbound × List Bytes
  | inbound, [] => ({}, inbound, [])
  | inbound, chunk :: rest =>
    if inbound.reading then
      let (emission, next) := inbound.take listening chunk
      let (later, last, unread) := takeAll listening next rest
      (emission ++ later, last, unread)
    else ({}, inbound, chunk :: rest)

def finish (listening : Bool) (inbound : Inbound) (ending : Ending) : Emission × Inbound :=
  if inbound.reading then
    ({ log := [ending.record] } ++ (Emission.ofEvent (.closed ending.error)).heard listening,
      { inbound with reading := false })
  else ({}, inbound)

end Inbound

end LanguageClient
