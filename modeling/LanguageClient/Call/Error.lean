import LanguageClient.Message.Basic

set_option autoImplicit false

namespace LanguageClient

inductive TransportError where
  | spawn (reason : String)
  | io (reason : String)
  /-- A message could not be written as bytes. -/
  | encode (reason : String)
  | closed (reason : String)
deriving DecidableEq

def TransportError.message : TransportError → String
  | .spawn reason => "Failed to launch language server: " ++ reason
  | .io reason => "I/O error: " ++ reason
  | .encode reason => "Failed to encode message: " ++ reason
  | .closed reason => "Connection closed: " ++ reason

/-- What lies behind the failure: the operating system, for some. -/
def TransportError.causes : TransportError → List String
  | .spawn reason | .io reason => [reason]
  | .encode _ | .closed _ => []

inductive RequestError where
  | server (error : ResponseError)
  | transport (error : TransportError)
  | duplicateId (id : Id)
deriving DecidableEq

def RequestError.message : RequestError → String
  | .server error => error.render
  | .transport error => "Transport error: " ++ error.message
  | .duplicateId id => "Request id " ++ id.render ++ " is already pending"

def RequestError.causes : RequestError → List String
  | .transport error => error.message :: error.causes
  | .server _ | .duplicateId _ => []

def RequestError.serverError? : RequestError → Option ResponseError
  | .server error => some error
  | .transport _ | .duplicateId _ => none

end LanguageClient
