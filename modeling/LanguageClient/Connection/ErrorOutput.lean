import LanguageClient.Connection.Inbound

set_option autoImplicit false

/-!
What a server writes beside its messages, line by line. A line ends at a newline, with or without a
carriage return before it; what follows the last newline is a line if it is not empty, and is kept
as it is. A line that is no text ends the forwarding.
-/

namespace LanguageClient

/-- The forwarding of error output: the bytes of the line that is not complete yet. -/
structure ErrorOutput where
  line : Bytes := []
  running : Bool := true
deriving DecidableEq

namespace ErrorOutput

def newline : UInt8 := 0x0A

def carriageReturn : UInt8 := 0x0D

def withoutReturn (line : Bytes) : Bytes :=
  if line.getLast? = some carriageReturn then line.dropLast else line

def failure (reason : String) : Log.Record :=
  ⟨.warn, .stream, "Failed to read LSP server error output: " ++ reason⟩

def notText : String := "invalid UTF-8"

def ended : ErrorOutput := ⟨[], false⟩

/-- Reports all lines but the last one, which is not complete yet. -/
def reportLines : List Bytes → Emission × ErrorOutput
  | [] => ({}, {})
  | [line] => ({}, { line := line })
  | line :: next :: rest =>
    match Utf8.text? (withoutReturn line) with
    | some text =>
      let (later, last) := reportLines (next :: rest)
      (.ofEvent (.errorOutput text) ++ later, last)
    | none => ({ log := [failure notText] }, ended)

def take (output : ErrorOutput) (chunk : Bytes) : Emission × ErrorOutput :=
  if output.running then reportLines (Split.on newline (output.line ++ chunk)) else ({}, output)

def finish (output : ErrorOutput) (ending : Ending) : Emission × ErrorOutput :=
  if !output.running then ({}, output)
  else
    match ending with
    | .failed reason => ({ log := [failure reason] }, ended)
    | .closed =>
      if output.line = [] then ({}, ended)
      else
        match Utf8.text? output.line with
        | some text => (.ofEvent (.errorOutput text), ended)
        | none => ({ log := [failure notText] }, ended)

end ErrorOutput

end LanguageClient
