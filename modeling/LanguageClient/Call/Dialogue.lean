import LanguageClient.Call.Error
import LanguageClient.Log

set_option autoImplicit false

namespace LanguageClient

inductive Dialogue (α : Type) where
  | finish (value : α)
  | request (request : Request) (next : Except RequestError Json → Dialogue α)
  | notify (notification : Notification) (next : Except TransportError Unit → Dialogue α)
  | record (record : Log.Record) (next : Dialogue α)
  /-- Prints a text for whoever runs the program. -/
  | print (text : String) (next : Dialogue α)

namespace Dialogue

def bind {α β : Type} (dialogue : Dialogue α) (after : α → Dialogue β) : Dialogue β :=
  match dialogue with
  | finish value => after value
  | request question next => request question fun result => (next result).bind after
  | notify notification next => notify notification fun result => (next result).bind after
  | record entry next => record entry (next.bind after)
  | print text next => print text (next.bind after)

instance : Monad Dialogue where
  pure := finish
  bind := bind

end Dialogue

end LanguageClient
