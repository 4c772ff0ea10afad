import LanguageClient.Call.Error
import LanguageClient.Text.Split

set_option autoImplicit false

namespace LanguageClient

structure Failure where
  message : String
  /-- The nearest cause comes first. -/
  causes : List String := []
deriving DecidableEq

namespace Failure

def ofTransport (error : TransportError) : Failure := ⟨error.message, error.causes⟩

def ofRequest (error : RequestError) : Failure := ⟨error.message, error.causes⟩

def within (context : String) (failure : Failure) : Failure :=
  ⟨context, failure.message :: failure.causes⟩

def linesOf (text : String) : List String := (Split.on '\n' text.toList).map String.ofList

def labelled (label indent text : String) : List String :=
  match linesOf text with
  | [] => []
  | first :: rest => (label ++ first) :: rest.map (indent ++ ·)

def causeLines : List String → List String
  | [] => []
  | [cause] => "" :: "Caused by:" :: labelled "    " "    " cause
  | causes => "" :: "Caused by:" :: causes.zipIdx.flatMap fun (cause, index) =>
      let number := index.repr
      labelled ("".pushn ' ' (5 - number.length) ++ number ++ ": ") "       " cause

def lines (failure : Failure) : List String :=
  linesOf ("Error: " ++ failure.message) ++ causeLines failure.causes

end Failure

end LanguageClient
