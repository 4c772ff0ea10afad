import LanguageClient.Call.Error
import LanguageClient.Log
import LanguageClient.Packet.Basic

set_option autoImplicit false

/-!
Sending packets over one stream. A send takes the lock of the writer, writes its packet piece by
piece, flushes, and gives the lock back; a send that fails or is dropped on the way gives it back
where it stands.
-/

namespace LanguageClient

structure Outbound.Holder where
  sender : Nat
  remaining : Bytes
deriving DecidableEq

/-- The bytes that the stream has accepted, and who holds its lock. -/
structure Outbound where
  /-- The last byte comes first. -/
  accepted : Bytes := []
  holder : Option Outbound.Holder := none
deriving DecidableEq

namespace Outbound

def written (outbound : Outbound) : Bytes := outbound.accepted.reverse

inductive Step where
  /-- A send takes the free lock for its packet. -/
  | acquire (sender : Nat) (packet : Bytes)
  /-- The stream accepts the next bytes of the send that holds the lock. -/
  | write (count : Nat)
  /-- The send is done, has failed, or was dropped, and gives the lock back. -/
  | release
deriving DecidableEq

/-- Steps that are not possible change nothing. -/
def step (outbound : Outbound) : Step → Outbound
  | .acquire sender packet =>
    match outbound.holder with
    | none => { outbound with holder := some ⟨sender, packet⟩ }
    | some _ => outbound
  | .write count =>
    match outbound.holder with
    | none => outbound
    | some holder =>
      ⟨(holder.remaining.take count).reverse ++ outbound.accepted,
        some { holder with remaining := holder.remaining.drop count }⟩
  | .release => { outbound with holder := none }

theorem written_step_write (outbound : Outbound) (holder : Holder) (count : Nat)
    (held : outbound.holder = some holder) :
    (outbound.step (.write count)).written =
      outbound.written ++ holder.remaining.take count := by
  simp [step, written, held]

structure Sink where
  writeLimit : Option Nat := none
  writeError : Option String := none
  /-- The bytes of a packet that are accepted before a write meets its error. -/
  errorBehind : Nat := 0
  flushError : Option String := none
deriving DecidableEq

namespace Sink

/-- How many bytes of some a write takes, when so many of the packet are taken already. -/
def write (sink : Sink) (taken count : Nat) : Except String Nat :=
  let most := min count (sink.writeLimit.getD count)
  match sink.writeError with
  | none => .ok most
  | some reason =>
    if sink.errorBehind ≤ taken then .error reason
    else .ok (min most (sink.errorBehind - taken))

/-- Writes what is left of a packet. An error breaks this off wherever it comes, and so does a
stream that takes no byte at all. -/
def writeAll (sink : Sink) (taken : Nat) (remaining : Bytes) :
    List Step × Except TransportError Unit :=
  if remaining = [] then ([], .ok ())
  else
    match sink.write taken remaining.length with
    | .error reason => ([], .error (.io reason))
    | .ok 0 => ([], .error (.io "write zero"))
    | .ok (count + 1) =>
      let later := sink.writeAll (taken + (count + 1)) (remaining.drop (count + 1))
      (.write (count + 1) :: later.1, later.2)
termination_by remaining.length
decreasing_by
  rename_i nonempty
  have := List.length_pos_iff.mpr nonempty
  simp only [List.length_drop]
  omega

def flush (sink : Sink) : Except TransportError Unit :=
  match sink.flushError with
  | some reason => .error (.io reason)
  | none => .ok ()

def steps (sink : Sink) (sender : Nat) (packet : Bytes) :
    List Step × Except TransportError Unit :=
  let writes := sink.writeAll 0 packet
  (.acquire sender packet :: writes.1 ++ [.release], writes.2.bind fun () => sink.flush)

end Sink

def sent (message : Message) (packet : Packet) : Log.Record :=
  ⟨.debug, .stream, "Sent LSP " ++ message.kind ++ " (" ++ packet.size.repr ++ " bytes)"⟩

def send (outbound : Outbound) (sink : Sink) (sender : Nat) (message : Message) :
    Except TransportError Unit × Log × Outbound :=
  let packet := Packet.ofMessage message
  let (steps, result) := sink.steps sender packet.toBytes
  let log := match result with
    | .ok () => [sent message packet]
    | .error _ => []
  (result, log, steps.foldl step outbound)

end Outbound

end LanguageClient
