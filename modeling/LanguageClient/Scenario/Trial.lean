import LanguageClient.Scenario.Rehearsal

set_option autoImplicit false

namespace LanguageClient

namespace Scenario

structure Surroundings where
  host : Host
  replies : List (String × Reply) := []
  interpreter : Option Path := none
  filter : Option String := none
  ids : IdSource
  identity : Identity

structure Trial where
  code : UInt32 := 0
  output : String := ""
  console : List Log.Line := []
  received : List Message := []

namespace Trial

def serverProcess : Nat := 4711

def reader (host : Host) : FileReader := fun path =>
  match host.tree.read host.current path with
  | .error error => .error error.message
  | .ok content => Inquiry.textOf content

/-- What a program has written before it hears anything: a tool is done at once. -/
def opening (launch : Host.Launch) (command : Command) : Written :=
  match launch.program with
  | .scripted => {}
  | .tool tool => ⟨(tool.launched launch.folder command []).output, true⟩

/-- The end of a trial; of its log the records are seen that pass. -/
def ended (invocation : Invocation) (surroundings : Surroundings) (log : Log)
    (received : List Message) (output : String) (result : Except Abort Unit) : Trial :=
  let filter := invocation.filter surroundings.filter
  let exit := Exit.ofResult surroundings.identity result
  { code := exit.code
    output := output
    console := (log.filter filter.passes).flatMap Log.Record.lines ++
      exit.lines.map Log.Line.ofText
    received := received }

def stuck : Abort := .failed { message := "No answer came" }

def runInvocation (surroundings : Surroundings) (invocation : Invocation) : Trial :=
  let host := surroundings.host
  match host.tree.canonical host.current invocation.root with
  | .error reason =>
    ended invocation surroundings [] [] ""
      (.error (.failed (invocation.rootMissing reason.message)))
  | .ok root =>
    let config := invocation.config surroundings.interpreter root
    let command := Command.ofConfig config
    match host.launch command with
    | .error reason =>
      ended invocation surroundings [config.starting] [] ""
        (.error (Abort.ofTransport (.spawn reason)))
    | .ok launch =>
      let written := opening launch command
      let rehearsal : Rehearsal := {
        conversation := (Conversation.begin Invocation.observe).note
          [config.starting, ServerConfig.started serverProcess]
        server := { replies := surroundings.replies, closed := written.ends }
        unheard := written }
      let (result, last) := rehearsal.run
        (invocation.session surroundings.ids surroundings.identity.process root (reader host))
      ended invocation surroundings last.conversation.log last.server.received last.printed
        (result.getD (.error stuck))

def run (surroundings : Surroundings) (arguments : List String) : Trial :=
  match Errand.ofArguments arguments with
  | .print text exit =>
    { code := exit.code, output := text, console := exit.lines.map Log.Line.ofText }
  | .inquire invocation => runInvocation surroundings invocation

end Trial

end Scenario

end LanguageClient
