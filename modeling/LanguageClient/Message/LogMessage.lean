import LanguageClient.Json.Decoder
import LanguageClient.Log
import LanguageClient.Message.Json

set_option autoImplicit false

namespace LanguageClient

inductive Severity where
  | error
  | warning
  | info
  | log
deriving DecidableEq

def Severity.ofCode? (code : Int32) : Option Severity :=
  if code = 1 then some .error
  else if code = 2 then some .warning
  else if code = 3 then some .info
  else if code = 4 then some .log
  else none

def Severity.name : Severity → String
  | .error => "Error"
  | .warning => "Warning"
  | .info => "Info"
  | .log => "Log"

def Severity.level : Severity → Log.Level
  | .error => .error
  | .warning => .warn
  | .info => .info
  | .log => .debug

/-- The severity is kept as its code, since servers may know more of them. -/
structure LogMessage where
  code : Int32
  text : String
deriving DecidableEq

namespace LogMessage

def ofJson : Json.Decoder LogMessage := fun value => do
  let source ← Json.Source.ofJson "LogMessageParams" value
  let code := source.slot 0 "type" .int32
  let text := source.slot 1 "message" .string
  source.check "LogMessageParams" [code.status, text.status]
  return ⟨← code.value, ← text.value⟩

def toJson (message : LogMessage) : Json :=
  .object [("type", .ofInt32 message.code), ("message", .string message.text)]

/-- Unknown severities are logged as information. -/
def level (message : LogMessage) : Log.Level :=
  (Severity.ofCode? message.code).elim .info Severity.level

def unknownSeverity (message : LogMessage) : Log :=
  match Severity.ofCode? message.code with
  | some _ => []
  | none => [⟨.warn, .documents, "Unknown LSP message type code: " ++
      String.ofList (Decimal.signed message.code.toInt)⟩]

end LogMessage

/-- The message that a notification asks to be logged; none if it asks for something else or its
params are malformed. -/
def Notification.logMessage? (notification : Notification) : Option LogMessage :=
  if notification.method = "window/logMessage" then
    notification.params.bind fun params => (LogMessage.ofJson params.toJson).toOption
  else none

end LanguageClient
