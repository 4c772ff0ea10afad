import LanguageClient.Connection.Duplex
import LanguageClient.Connection.ErrorOutput
import LanguageClient.Scenario.Host

set_option autoImplicit false

namespace LanguageClient

namespace Scenario

structure ProcessReport where
  sent : List (Except TransportError Unit) := []
  heard : List Event := []
  beside : List Event := []
  status : Shell.Status := .exited 0

def killSignal : Nat := 9

def processNumber : Nat := 4711

def sendAll (duplex : Duplex) :
    List Message → List (Except TransportError Unit) × Log × Duplex
  | [] => ([], [], duplex)
  | message :: rest =>
    let (result, log, next) := duplex.send 0 message
    let (results, later, last) := sendAll next rest
    (result :: results, log ++ later, last)

/-- Starts a server, sends it messages, and listens to it until it ends by itself or is killed. -/
def runProcess (host : Host) (config : ServerConfig) (messages : List Message) (killed : Bool) :
    Except TransportError ProcessReport × Log :=
  let command := Command.ofConfig config
  match host.launch command with
  | .error reason => (.error (.spawn reason), [config.starting])
  | .ok launch =>
    let (sent, sending, duplex) := sendAll {} messages
    let output : ProcessOutput :=
      if killed then { status := .killed killSignal }
      else
        match launch.program with
        | .tool tool => tool.launched launch.folder command duplex.outbound.written
        | .scripted => {}
    let (heard, duplex) := duplex.arrive output.output
    let (closing, _) := duplex.finish .closed
    let (beside, lines) := ({} : ErrorOutput).take output.errors
    let (rest, _) := lines.finish .closed
    let emission := heard ++ closing
    let aside := beside ++ rest
    (.ok ⟨sent, emission.events, aside.events, output.status⟩,
      [config.starting, ServerConfig.started processNumber] ++ sending ++ emission.log ++ aside.log)

end Scenario

end LanguageClient
