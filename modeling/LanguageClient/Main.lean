import LanguageClient.Client.Conversation
import LanguageClient.CommandLine.Session
import LanguageClient.Log.Console
import LanguageClient.SystemError

set_option autoImplicit false

/-!
The program. It does not start the server by itself: whoever calls it connects descriptor 3 to the
server's output and descriptor 4 to its input.
-/

namespace LanguageClient

namespace Console

def serverOutput : String := "/dev/fd/3"

def serverInput : String := "/dev/fd/4"

def reason (error : IO.Error) : String :=
  match error with
  | .noFileOrDirectory .. => SystemError.missing.message
  | .permissionDenied .. => SystemError.forbidden.message
  | .inappropriateType .. => SystemError.notFolder.message
  | other => toString other

def attempt {α : Type} (action : IO α) : IO (Except String α) := do
  try return .ok (← action)
  catch error => return .error (reason error)

def printRecords (filter : Log.Filter) (log : Log) : IO Unit := do
  for record in log.filter filter.passes do
    let (first, rest) := record.shown
    for line in first.line :: rest do IO.eprintln line

/-- A conversation whose records are printed, and the pipes to the server. -/
structure Talk where
  conversation : Conversation
  filter : Log.Filter
  output : IO.FS.Handle
  input : IO.FS.Handle

/-- Prints the records that were made, and writes the bytes that were sent. A server that takes no
more bytes is taken to be gone. -/
def Talk.settle (talk : Talk) (conversation : Conversation) : IO Talk := do
  let bytes := conversation.duplex.outbound.written
  let written ← attempt do
    if !bytes.isEmpty then
      talk.input.write ⟨bytes.toArray⟩
      talk.input.flush
  let conversation := { conversation with
    duplex := { conversation.duplex with
      outbound := { conversation.duplex.outbound with accepted := [] } } }
  let conversation := match written with
    | .ok () => conversation
    | .error reason => conversation.hearEnd (.failed reason)
  printRecords talk.filter conversation.log
  return { talk with conversation := { conversation with log := [] } }

/-- Reads what the server writes until a call is answered. A read waits for all bytes that are asked
for, so no more of them are asked for than must come. -/
partial def Talk.await (talk : Talk) (call : Nat) : IO (Answer × Talk) := do
  let (answer, conversation) := talk.conversation.answer? call
  match answer with
  | some answer => return (answer, ← talk.settle conversation)
  | none =>
    let count := min talk.conversation.duplex.inbound.detector.awaited Inbound.readLimit
    let heard ← attempt (talk.output.read (USize.ofNat (max 1 count)))
    let conversation := match heard with
      | .error reason => conversation.hearEnd (.failed reason)
      | .ok chunk =>
        if chunk.isEmpty then conversation.hearEnd .closed else conversation.hear chunk.toList
    Talk.await (← talk.settle conversation) call

def Talk.run {α : Type} (talk : Talk) : Dialogue α → IO α
  | .finish value => return value
  | .record record next => do
    (← talk.settle (talk.conversation.note [record])).run next
  | .print text next => do
    IO.print text
    talk.run next
  | .notify notification next => do
    let (result, _, conversation) := talk.conversation.tell notification
    (← talk.settle conversation).run (next result)
  | .request request next => do
    let (call, _, conversation) := talk.conversation.ask request
    let (answer, talk) ← (← talk.settle conversation).await call
    talk.run (next answer)

def processNumber : IO UInt32 := do
  let own ← attempt (IO.FS.realPath "/proc/self")
  let name := own.toOption.bind fun path => Path.fileName? (Utf8.bytes path.toString)
  return UInt32.ofNat (((name.bind Utf8.text?).bind String.toNat?).getD 0)

def seed : IO UInt64 := do
  let bytes ← IO.getRandomBytes 8
  return UInt64.ofNat (bytes.toList.foldl (fun total byte => 256 * total + byte.toNat) 0)

def runInvocation (process : UInt32) (invocation : Invocation) (filter : Log.Filter) :
    IO (Except Abort Unit) := do
  match ← attempt (IO.FS.realPath (Utf8.lossyText invocation.root)) with
  | .error reason => return .error (.failed (invocation.rootMissing reason))
  | .ok root =>
    let root := Utf8.bytes root.toString
    let interpreter := (← IO.getEnv "LSP_WIRE_NODE_PATH").map Utf8.bytes
    printRecords filter [(invocation.config interpreter root).starting]
    let opened ← attempt do
      let output ← IO.FS.Handle.mk serverOutput .read
      return (output, ← IO.FS.Handle.mk serverInput .write)
    match opened with
    | .error reason => return .error (Abort.ofTransport (.spawn reason))
    | .ok (output, input) =>
      let text ← match invocation.inquiry.file? with
        | none => pure (.ok "")
        | some file => do
          let content ← attempt (IO.FS.readBinFile (Utf8.lossyText (Path.join root file)))
          pure (content.bind fun content => Inquiry.textOf content.toList)
      let talk : Talk := ⟨.begin Invocation.observe, filter, output, input⟩
      talk.run (invocation.session ⟨← seed, 0⟩ process root fun _ => text)

def leave (exit : Exit) : IO UInt32 := do
  for line in exit.lines do IO.eprintln line
  return exit.code

def run (arguments : List String) : IO UInt32 := do
  match Errand.ofArguments arguments with
  | .print text exit =>
    IO.print text
    leave exit
  | .inquire invocation =>
    let process ← processNumber
    let filter := invocation.filter (← IO.getEnv "RUST_LOG")
    let result ← runInvocation process invocation filter
    leave (Exit.ofResult ⟨Help.programName, process⟩ result)

end Console

end LanguageClient

def main (arguments : List String) : IO UInt32 := LanguageClient.Console.run arguments
