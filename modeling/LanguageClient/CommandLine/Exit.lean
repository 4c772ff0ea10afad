import LanguageClient.CommandLine.Failure
import LanguageClient.CommandLine.Help

set_option autoImplicit false

namespace LanguageClient

structure Site where
  line : Nat
  column : Nat
deriving DecidableEq

inductive Abort where
  | failed (failure : Failure)
  /-- A sum is too large for its type. -/
  | overflowed (site : Site)
deriving DecidableEq

namespace Abort

def ofTransport (error : TransportError) : Abort := .failed (.ofTransport error)

def ofRequest (error : RequestError) : Abort := .failed (.ofRequest error)

end Abort

/-- What a run that breaks off says of itself. -/
structure Identity where
  source : String
  process : UInt32

namespace Site

def report (identity : Identity) (site : Site) : List String :=
  ["",
    "thread 'main' (" ++ identity.process.toNat.repr ++ ") panicked at " ++ identity.source ++
      ":" ++ site.line.repr ++ ":" ++ site.column.repr ++ ":",
    "attempt to add with overflow",
    "note: run with \x60RUST_BACKTRACE=1\x60 environment variable to display a backtrace"]

end Site

/-- What is left to whoever started the program. -/
structure Exit where
  code : UInt32 := 0
  lines : List String := []
deriving DecidableEq

def Exit.ofResult (identity : Identity) : Except Abort Unit → Exit
  | .ok () => {}
  | .error (.failed failure) => ⟨1, failure.lines⟩
  | .error (.overflowed site) => ⟨101, site.report identity⟩

inductive Errand where
  | print (text : String) (exit : Exit)
  | inquire (invocation : Invocation)

def Errand.ofArguments (arguments : List String) : Errand :=
  match Demand.ofArguments arguments with
  | .error misuse => .print "" ⟨2, ["error: " ++ misuse.message]⟩
  | .ok (.help topic) => .print (Help.text topic) {}
  | .ok .version => .print Help.versionText {}
  | .ok (.run invocation) => .inquire invocation

end LanguageClient
