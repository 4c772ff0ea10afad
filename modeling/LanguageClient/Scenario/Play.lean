import LanguageClient.Scenario.Basic

set_option autoImplicit false

namespace LanguageClient

namespace Scenario

abbrev Play := StateM Scenario

def note (log : Log) : Play Unit :=
  modify fun scenario =>
    { scenario with report := { scenario.report with log := scenario.report.log ++ log } }

def see (sight : Sight) : Play Unit :=
  modify fun scenario =>
    { scenario with report := { scenario.report with seen := scenario.report.seen ++ [sight] } }

/-- Reports an effect; what is handed over is left to the caller. -/
def apply : Client.Effect → Play Unit
  | .hand _ _ => pure ()
  | .run handler event => see (.handled handler event)
  | .log record => note [record]

def perform (step : Client.Step) : Play (List Client.Effect) := do
  let scenario ← get
  let (client, effects) := scenario.client.step step
  set { scenario with client := client }
  effects.forM apply
  return effects

def setLink (link : Link) : Play Unit := modify fun scenario => { scenario with link := link }

def remember (name : String) (message : Message) : Play Unit :=
  match message with
  | .request request =>
    modify fun scenario => { scenario with asked := (name, request.id) :: scenario.asked }
  | _ => pure ()

/-- What a recording connection does with a message that is not held back. -/
def deliver (recorder : Recorder) (name : String) (message : Message) :
    Play (Except TransportError Unit) := do
  match recorder.refusal with
  | some error => return .error error
  | none =>
    modify fun scenario =>
      { scenario with report := { scenario.report with
          recorded := scenario.report.recorded ++ [message] } }
    remember name message
    return .ok ()

/-- Hands a message over; no result while it is held back. -/
def send (task : Nat) (name : String) (message : Message) :
    Play (Option (Except TransportError Unit)) := do
  match (← get).link with
  | .recorder recorder =>
    if recorder.holding then
      setLink (.recorder { recorder with held := recorder.held ++ [⟨task, message⟩] })
      return none
    else return some (← deliver recorder name message)
  | .stream duplex =>
    let (result, log, duplex) := duplex.send task message
    setLink (.stream duplex)
    note log
    if let .ok () := result then remember name message
    return some result

def await (task : Task) : Play Unit :=
  modify fun scenario => { scenario with tasks := scenario.tasks ++ [task] }

def answer? (call : Nat) : Play (Option Answer) := do
  let _ ← perform (.resume call)
  return (← get).client.answer? call

/-- Goes on with a call until it waits or has finished. -/
def proceed (task : Nat) (name : String) : Dialogue Outcome → Play Unit
  | .finish outcome =>
    modify fun scenario =>
      { scenario with report := { scenario.report with
          finished := scenario.report.finished ++ [(name, outcome)] } }
  | .record record next => do
    note [record]
    proceed task name next
  | .print _ next => proceed task name next
  | .request request next => do
    let call := (← get).client.calls.length
    let effects ← perform (.start request)
    for effect in effects do
      if let .hand _ message := effect then
        if let some result ← send task name message then
          let _ ← perform (.sent call result)
    match ← answer? call with
    | some answer => proceed task name (next answer)
    | none => await ⟨task, name, .answer call next⟩
  | .notify notification next => do
    match (← get).client.notify notification with
    | .error error => proceed task name (next (.error error))
    | .ok (log, message) =>
      note log
      match ← send task name message with
      | some result => proceed task name (next result)
      | none => await ⟨task, name, .delivery next⟩

def settle (task : Task) : Play Unit := do
  match task.waiting with
  | .delivery _ => pure ()
  | .answer call next =>
    match ← answer? call with
    | none => pure ()
    | some answer =>
      modify fun scenario =>
        { scenario with tasks := scenario.tasks.filter (·.number ≠ task.number) }
      proceed task.number task.name (next answer)

def settleAll : Play Unit := do
  (← get).tasks.forM settle

def receive (event : Event) : Play Unit := do
  let _ ← perform (.receive event)
  settleAll

def emit (emission : Emission) : Play Unit := do
  note emission.log
  emission.events.forM receive

def endEvents : Play Unit := do
  let _ ← perform .eventsEnded
  settleAll

/-- Lets a message go that was held back, and goes on with its call. -/
def letGo (held : Held) : Play Unit := do
  let scenario ← get
  match scenario.link, scenario.tasks.find? (·.number = held.task) with
  | .recorder recorder, some task =>
    let result ← deliver recorder task.name held.message
    match task.waiting with
    | .answer call _ =>
      let _ ← perform (.sent call result)
      settle task
    | .delivery next =>
      modify fun scenario =>
        { scenario with tasks := scenario.tasks.filter (·.number ≠ task.number) }
      proceed task.number task.name (next result)
  | _, _ => pure ()

/-- Gives up the last call of a name, if it still waits. -/
def cancel (name : String) : Play Unit := do
  let scenario ← get
  match scenario.tasks.reverse.find? (·.name = name) with
  | none => pure ()
  | some task =>
    let link := match scenario.link with
      | .recorder recorder =>
        .recorder { recorder with held := recorder.held.filter (·.task ≠ task.number) }
      | .stream duplex => .stream duplex
    set { scenario with
      link := link
      tasks := scenario.tasks.filter (·.number ≠ task.number) }
    match task.waiting with
    | .answer call _ => let _ ← perform (.drop call)
    | .delivery _ => pure ()

def begin (name : String) (dialogue : Id → Dialogue Outcome) : Play Unit := do
  let scenario ← get
  let (id, ids) := scenario.ids.next
  set { scenario with ids := ids, begun := scenario.begun + 1 }
  proceed scenario.begun name (dialogue id)

def serve (text : Bytes) : Play Unit := do
  match (← get).link with
  | .recorder recorder =>
    if recorder.attached then
      match Message.decode text with
      | .ok message => emit (.ofMessage message)
      | .error error => see (.unreadable error)
  | .stream duplex =>
    let (emission, duplex) := duplex.arrive (Segment.wrap text)
    setLink (.stream duplex)
    emit emission

/-- The server answers the last request that a call has sent; the answer is the text of a
member. -/
def respond (name : String) (answer : Bytes) : Play Unit := do
  let id := ((← get).asked.lookup name).elim .null Id.toJson
  serve (Utf8.bytes "\x7b\"jsonrpc\":\"2.0\",\"id\":" ++ id.encode ++ Utf8.bytes "," ++ answer ++
    Utf8.bytes "\x7d")

def onRecorder (change : Recorder → Recorder) : Play Unit := do
  if let .recorder recorder := (← get).link then setLink (.recorder (change recorder))

def onStream (change : Duplex → Emission × Duplex) : Play Unit := do
  if let .stream duplex := (← get).link then
    let (emission, duplex) := change duplex
    setLink (.stream duplex)
    emit emission

def release : Play Unit := do
  if let .recorder recorder := (← get).link then
    setLink (.recorder { recorder with holding := false, held := [] })
    recorder.held.forM letGo

def emitAttached (emission : Emission) : Play Unit := do
  if let .recorder recorder := (← get).link then
    if recorder.attached then emit emission

def detach : Play Unit := do
  if let .recorder recorder := (← get).link then
    if recorder.attached then
      setLink (.recorder { recorder with attached := false })
      endEvents

/-- The stream that the server writes to ends, and with it the events. -/
def finish (ending : Ending) : Play Unit := do
  if let .stream duplex := (← get).link then
    let running := !duplex.isOver
    onStream (·.finish ending)
    if running then endEvents

def play (scenario : Scenario) (step : Play Unit) : Report × Scenario :=
  let ((), next) := step.run { scenario with report := {} }
  (next.report, next)

end Scenario

end LanguageClient
