import LanguageClient.Client.Basic

set_option autoImplicit false

/-!
The steps of a client. Calls of requests, their sends and the events of the connection take their
steps in any order. A shutdown is recorded once, answers all pending requests, and refuses what
comes after it.
-/

namespace LanguageClient

namespace Client

/-- What a step does outside of the client. -/
inductive Effect where
  | hand (call : Nat) (message : Message)
  | run (handler : String) (event : Event)
  | log (record : Log.Record)
deriving DecidableEq

inductive Step where
  /-- A new call registers its request and begins to send it. -/
  | start (request : Request)
  /-- The connection is done with the message of a call. -/
  | sent (call : Nat) (result : Except TransportError Unit)
  | resume (call : Nat)
  | drop (call : Nat)
  | receive (event : Event)
  /-- The connection ends without having said so. -/
  | eventsEnded
  | setHandler (handler : Handler) (name : String)
deriving DecidableEq

/-- Why a call returns whose pending request was removed by another. -/
def unanswered : RequestError :=
  .transport (.closed "request was dropped without a response")

/-- A request of a shut down client or with a pending id fails at once. -/
def start (client : Client) (request : Request) : Client × List Effect :=
  let call := client.calls.length
  let made (stage : Stage) : Client :=
    { client with calls := client.calls ++ [⟨request.id, stage, .empty⟩] }
  match client.shutdown with
  | some error => (made (.returned (.error (.transport error))), [])
  | none =>
    if (client.pending? request.id).isSome then
      (made (.returned (.error (.duplicateId request.id))), [])
    else
      ({ made .sending with pending := client.pending ++ [⟨request.id, call⟩] },
        [.log ⟨.debug, .client, "Sending LSP request " ++ request.method ++ " (id: " ++
            request.id.render ++ ")"⟩,
          .hand call (.request request)])

/-- A failed send takes its request off the list. -/
def sent (client : Client) (call : Nat) (result : Except TransportError Unit) :
    Client × List Effect :=
  match client.calls[call]? with
  | some ⟨id, .sending, _⟩ =>
    match result with
    | .ok () => (client.setStage call .waiting, [])
    | .error error =>
      ((client.remove id).setStage call (.returned (.error (.transport error))),
        [.log ⟨.warn, .client, "Failed to send LSP request (id: " ++ id.render ++ "): " ++
          error.message⟩])
  | _ => (client, [])

def resume (client : Client) (call : Nat) : Client × List Effect :=
  match client.calls[call]? with
  | some ⟨_, .waiting, .filled answer⟩ => (client.setStage call (.returned answer), [])
  | some ⟨_, .waiting, .abandoned⟩ => (client.setStage call (.returned (.error unanswered)), [])
  | _ => (client, [])

def drop (client : Client) (call : Nat) : Client × List Effect :=
  let giveUp (id : Id) : Client × List Effect :=
    ((client.remove id).setStage call .dropped,
      [.log ⟨.debug, .client, "LSP request " ++ id.render ++ " cancelled"⟩])
  match client.calls[call]? with
  | some ⟨id, .sending, _⟩ => giveUp id
  | some ⟨id, .waiting, _⟩ => giveUp id
  | _ => (client, [])

def isOpen (client : Client) (call : Nat) : Bool :=
  match client.calls[call]? with
  | some ⟨_, .sending, _⟩ | some ⟨_, .waiting, _⟩ => true
  | _ => false

def error (text : String) : Effect := .log ⟨.error, .client, text⟩

def respond (client : Client) (response : Response) : Client × List Effect :=
  match response.id with
  | none =>
    match response.result with
    | .ok result => (client, [error ("LSP server sent a result without request id: " ++
        result.render)])
    | .error failure => (client, [error ("LSP server sent an error without request id: " ++
        failure.render)])
  | some id =>
    match client.pending? id with
    | none => (client, [error ("No pending request for LSP response id " ++ id.render)])
    | some pending =>
      let received : Effect := .log ⟨.debug, .client, "Received LSP response (id: " ++
        id.render ++ ")"⟩
      let late : Effect := .log ⟨.debug, .client, "LSP request " ++ id.render ++
        " was abandoned before its response arrived"⟩
      ((client.forget id).fill pending.call (response.result.mapError .server),
        if client.isOpen pending.call then [received] else [received, late])

/-- The first shutdown counts. All pending requests are answered with its error. -/
def shutDown (client : Client) (error : TransportError) : Client × List Effect :=
  match client.shutdown with
  | some _ =>
    (client, [.log ⟨.debug, .client, "LSP connection already shut down, ignoring: " ++
      error.message⟩])
  | none =>
    let closed := { client with pending := [], shutdown := some error }
    (client.pending.foldl (fun held pending =>
        held.fill pending.call (.error (.transport error))) closed,
      [.log ⟨.info, .client, "LSP connection shut down (" ++ error.message ++ "), failing " ++
          client.pending.length.repr ++ " pending request(s)"⟩,
        match client.handlers.shutdown with
        | some name => .run name (.closed error)
        | none => .log ⟨.warn, .client, "Connection shutdown handler not set"⟩])

def receive (client : Client) (event : Event) : Client × List Effect :=
  match event with
  | .response response => client.respond response
  | .notification notification =>
    match client.handlers.notification with
    | some name => (client, [.run name event])
    | none => (client, [.log ⟨.warn, .client, "Notification handler not set, dropping " ++
        notification.method⟩])
  | .errorOutput text =>
    match client.handlers.errorOutput with
    | some name => (client, [.run name event])
    | none => (client, [.log ⟨.warn, .client, "Error output handler not set: " ++ text⟩])
  | .closed error => client.shutDown error

def step (client : Client) : Step → Client × List Effect
  | .start request => client.start request
  | .sent call result => client.sent call result
  | .resume call => client.resume call
  | .drop call => client.drop call
  | .receive event => client.receive event
  | .eventsEnded => client.shutDown (.closed "transport stopped delivering events")
  | .setHandler handler name =>
    ({ client with handlers := client.handlers.set handler name }, [])

def run : Client → List Step → Client × List Effect
  | client, [] => (client, [])
  | client, step :: rest =>
    let (next, effects) := client.step step
    let (last, later) := run next rest
    (last, effects ++ later)

/-- What is handed to the connection for a notification; a shut down client hands over nothing. -/
def notify (client : Client) (notification : Notification) :
    Except TransportError (Log × Message) :=
  match client.shutdown with
  | some error => .error error
  | none =>
    .ok ([⟨.debug, .client, "Sending LSP notification " ++ notification.method⟩],
      .notification notification)

end Client

end LanguageClient
