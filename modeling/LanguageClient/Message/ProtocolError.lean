import LanguageClient.Json.SyntaxError

set_option autoImplicit false

namespace LanguageClient

inductive ProtocolError where
  | invalidJson (error : Json.SyntaxError)
  | notAnObject
  | missingField (field : String)
  | invalidField (field expected : String)
  | invalidId
  | ambiguousKind (answer : String)
  | nullIdRequest
deriving DecidableEq

def ProtocolError.message : ProtocolError → String
  | .invalidJson error => "Invalid JSON: " ++ error.message
  | .notAnObject => "LSP message must be a JSON object"
  | .missingField field => "LSP message is missing field `" ++ field ++ "`"
  | .invalidField field expected => "LSP message field `" ++ field ++ "` must be " ++ expected
  | .invalidId => "LSP message id must be a string, an integer or null"
  | .ambiguousKind answer =>
    "LSP message has an id, a " ++ answer ++ " and a method, so its kind is unclear"
  | .nullIdRequest => "LSP message has a null id but neither result nor error"

end LanguageClient
