import LanguageClient.Connection.Inbound
import LanguageClient.Connection.Outbound

set_option autoImplicit false

namespace LanguageClient

structure Duplex where
  inbound : Inbound := {}
  outbound : Outbound := {}
  sink : Outbound.Sink := {}
  /-- Bytes that arrived but were not read. -/
  unread : Bytes := []
  alive : Bool := true
  listening : Bool := true
deriving DecidableEq

namespace Duplex

/-- Bytes arrive and are read as far as the reader runs. -/
def arrive (duplex : Duplex) (data : Bytes) : Emission × Duplex :=
  let unread := duplex.unread ++ data
  if duplex.alive then
    let (emission, inbound, left) := duplex.inbound.takeAll duplex.listening (Inbound.chunks unread)
    (emission, { duplex with inbound := inbound, unread := left.flatten })
  else ({}, { duplex with unread := unread })

def finish (duplex : Duplex) (ending : Ending) : Emission × Duplex :=
  if duplex.alive then
    let (emission, inbound) := duplex.inbound.finish duplex.listening ending
    (emission, { duplex with inbound := inbound })
  else ({}, duplex)

def send (duplex : Duplex) (sender : Nat) (message : Message) :
    Except TransportError Unit × Log × Duplex :=
  let (result, log, outbound) := duplex.outbound.send duplex.sink sender message
  (result, log, { duplex with outbound := outbound })

def isOver (duplex : Duplex) : Bool := !duplex.alive || !duplex.inbound.reading

end Duplex

end LanguageClient
