import LanguageClient.Call.Queries
import LanguageClient.Call.Uuid
import LanguageClient.CommandLine.Exit
import LanguageClient.Connection.Event
import LanguageClient.Log.Filter
import LanguageClient.Message.LogMessage
import LanguageClient.Path.Uri
import LanguageClient.Server.Config

set_option autoImplicit false

namespace LanguageClient

/-- What reading a file gives: its text, or why there is none. -/
abbrev FileReader := Path → Except String String

/-- A dialogue that ends at the first reason to do so. -/
abbrev Session := ExceptT Abort Dialogue

namespace Session

def ofResult {α : Type} (result : Except Abort α) : Session α := ExceptT.mk (.finish result)

def tell (notification : Notification) : Session Unit :=
  ExceptT.mk ((Call.notify notification).bind fun result =>
    .finish (result.mapError Abort.ofTransport))

def ask {α : Type} (call : Dialogue (Except RequestError α)) : Session α :=
  ExceptT.mk (call.bind fun result => .finish (result.mapError Abort.ofRequest))

def print (text : String) : Session Unit := ExceptT.mk (.print text (.finish (.ok ())))

/-- Prints lines one by one, up to the first that cannot be made. -/
def printAll : List (Except Abort String) → Session Unit
  | [] => pure ()
  | line :: rest => do
    print (← ofResult line)
    printAll rest

def documentSymbols (id : Id) (language : Language) (read : FileReader) (path : Path) :
    Session (List Symbol) := do
  let text ← ofResult ((read path).mapError fun reason =>
    .failed ⟨"Failed to read " ++ Utf8.lossyText path, [reason]⟩)
  let uri := Uri.ofPath none path
  tell (.didOpen uri language text)
  let symbols ← ExceptT.lift (Call.symbols id uri)
  tell (.didClose uri)
  ofResult (symbols.mapError Abort.ofRequest)

end Session

namespace Inquiry

/-- The sums of a printed position: of its line, and of its character. -/
structure Sums where
  line : Site
  character : Site

/-- A number that counts from 0, counted from 1 on in 32 bits. -/
def ordinal (site : Site) (number : UInt32) : Except Abort String :=
  if number.toNat + 1 < UInt32.size then .ok (number + 1).toNat.repr
  else .error (.overflowed site)

def place (sums : Sums) (position : Position) : Except Abort String := do
  let line ← ordinal sums.line position.line
  let column ← ordinal sums.character position.character
  return line ++ ":" ++ column

def symbolSums : Sums := ⟨⟨139, 13⟩, ⟨140, 13⟩⟩

def locationSums : Sums := ⟨⟨107, 21⟩, ⟨108, 21⟩⟩

def symbolLine (level : Nat) (symbol : Symbol) : Except Abort String := do
  let place ← place symbolSums symbol.selection.first
  return "".pushn ' ' (2 * level) ++ SymbolKind.describe symbol.kind ++ " " ++ symbol.name ++
    " [" ++ place ++ "]\n"

def locationLine (location : Location) : Except Abort String := do
  let place ← place locationSums location.range.first
  return location.uri ++ ":" ++ place ++ "\n"

structure Ids where
  /-- For the request that comes first. -/
  question : Id
  references : Id

def file? : Inquiry → Option Path
  | .symbols file | .references file _ => some file
  | .capabilities | .workspaceSymbols _ => none

def textOf (content : Bytes) : Except String String :=
  match Utf8.text? content with
  | some text => .ok text
  | none => .error "stream did not contain valid UTF-8"

def answer (inquiry : Inquiry) (ids : Ids) (language : Language) (root : Path)
    (read : FileReader) (capabilities : Json) : Session Unit := do
  match inquiry with
  | .capabilities => Session.print (capabilities.renderIndented ++ "\n")
  | .symbols file =>
    let symbols ← Session.documentSymbols ids.question language read (Path.join root file)
    Session.printAll ((Symbol.outline symbols).map fun (level, symbol) => symbolLine level symbol)
  | .references file name =>
    let path := Path.join root file
    let symbols ← Session.documentSymbols ids.question language read path
    match Symbol.find? name symbols with
    | none => throw (.failed ⟨"No symbol named " ++ name ++ " in " ++ Utf8.lossyText path, []⟩)
    | some symbol =>
      let locations ← Session.ask (Call.references ids.references symbol (Uri.ofPath none path))
      Session.printAll (locations.map locationLine)
  | .workspaceSymbols query =>
    let symbols ← Session.ask (Call.workspaceSymbols ids.question query)
    Session.print (symbols.renderIndented ++ "\n")

end Inquiry

namespace Invocation

/-- How the server is started; the workspace is its folder. -/
def config (invocation : Invocation) (interpreter : Option Path) (root : Path) : ServerConfig :=
  ((ServerConfig.forExecutable interpreter invocation.server).withArgs
    (invocation.serverArgs.map Utf8.bytes)).inFolder root

def unclean (error : RequestError) : Log.Record :=
  ⟨.warn, .commandLine, "Language server did not shut down cleanly: " ++ error.message⟩

/-- Bids a server farewell, and only records it if this fails. -/
def part (farewell : Id) (result : Except Abort Unit) : Dialogue (Except Abort Unit) :=
  (Call.shutdownAndExit farewell).bind fun
    | .ok () => .finish result
    | .error error => .record (unclean error) (.finish result)

/-- An inquiry that breaks off leaves without a farewell. -/
def leave (farewell : Id) (result : Except Abort Unit) : Dialogue (Except Abort Unit) :=
  match result with
  | .error (.overflowed _) => .finish result
  | .ok () | .error (.failed _) => part farewell result

/-- All that is said to a server, and how it ends. A server that is not greeted is not bid
farewell. -/
def session (invocation : Invocation) (ids : IdSource) (process : UInt32) (root : Path)
    (read : FileReader) : Dialogue (Except Abort Unit) := do
  let (greeting, ids) := ids.next
  let (question, ids) := ids.next
  let (references, ids) := ids.next
  let (farewell, _) := ids.next
  match ← Call.handshake greeting (Uri.ofFolder none root) process with
  | .error error =>
    return .error
      (.failed ((Failure.ofRequest error).within "Failed to initialize language server"))
  | .ok capabilities =>
    let result ← (invocation.inquiry.answer ⟨question, references⟩ (.ofName invocation.language)
      root read capabilities).run
    leave farewell result

/-- The records that the program makes of what it hears beside the answers. -/
def observe (event : Event) : Log :=
  match event with
  | .response _ => []
  | .notification notification =>
    match notification.logMessage? with
    | none => [⟨.debug, .commandLine, "Server notification: " ++ notification.method⟩]
    | some message =>
      message.unknownSeverity ++ [⟨message.level, .commandLine, "server: " ++ message.text⟩]
  | .errorOutput text => [⟨.debug, .commandLine, "server: " ++ text⟩]
  | .closed error =>
    [⟨.info, .commandLine, "Language server connection closed: " ++ error.message⟩]

/-- The filter of the log, which may be given as a text. Without a usable text it depends on how
much is asked for. -/
def filter (invocation : Invocation) (given : Option String) : Log.Filter :=
  match given.bind Log.Filter.ofText? with
  | some filter => filter
  | none =>
    let level : Log.Level := if invocation.verbose then .debug else .info
    ⟨[{ target := some Log.Origin.commandLine.path, rank := level.rank }]⟩

def rootMissing (invocation : Invocation) (reason : String) : Failure :=
  ⟨"Workspace root " ++ Utf8.lossyText invocation.root ++ " not found", [reason]⟩

end Invocation

end LanguageClient
