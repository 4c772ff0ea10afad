import LanguageClient.Connection.Event

set_option autoImplicit false

namespace LanguageClient

abbrev Answer := Except RequestError Json

/-- Where the answer to a call is left for it. -/
inductive Slot where
  | empty
  | filled (answer : Answer)
  /-- No answer will be left here any more. -/
  | abandoned
deriving DecidableEq

inductive Stage where
  | sending
  | waiting
  | returned (answer : Answer)
  | dropped
deriving DecidableEq

structure RequestCall where
  id : Id
  stage : Stage
  slot : Slot := .empty
deriving DecidableEq

/-- A request that has no response yet, and the call that made it. -/
structure Pending where
  id : Id
  call : Nat
deriving DecidableEq

inductive Handler where
  | notification
  | errorOutput
  | shutdown
deriving DecidableEq

structure Handlers where
  notification : Option String := none
  errorOutput : Option String := none
  shutdown : Option String := none
deriving DecidableEq

def Handlers.set (handlers : Handlers) (handler : Handler) (name : String) : Handlers :=
  match handler with
  | .notification => { handlers with notification := some name }
  | .errorOutput => { handlers with errorOutput := some name }
  | .shutdown => { handlers with shutdown := some name }

/-- Calls are numbered in the order in which they were made. -/
structure Client where
  pending : List Pending := []
  shutdown : Option TransportError := none
  calls : List RequestCall := []
  handlers : Handlers := {}
deriving DecidableEq

namespace Client

def setStage (client : Client) (call : Nat) (stage : Stage) : Client :=
  { client with calls := client.calls.modify call fun held => { held with stage := stage } }

def fill (client : Client) (call : Nat) (answer : Answer) : Client :=
  { client with calls := client.calls.modify call fun held => { held with slot := .filled answer } }

/-- Leaves an empty slot empty for good. -/
def abandon (client : Client) (call : Nat) : Client :=
  { client with calls := client.calls.modify call fun held =>
      if held.slot = .empty then { held with slot := .abandoned } else held }

def pending? (client : Client) (id : Id) : Option Pending := client.pending.find? (·.id = id)

/-- Takes a pending request off the list; its call is the one that waits under the id. -/
def forget (client : Client) (id : Id) : Client :=
  { client with pending := client.pending.eraseP (·.id = id) }

def remove (client : Client) (id : Id) : Client :=
  match client.pending? id with
  | none => client
  | some pending => (client.forget id).abandon pending.call

def answer? (client : Client) (call : Nat) : Option Answer :=
  match client.calls[call]? with
  | some ⟨_, .returned answer, _⟩ => some answer
  | _ => none

end Client

end LanguageClient
