import LanguageClient.Message.ProtocolError

set_option autoImplicit false

namespace LanguageClient

/-- Why a header declares no usable content length. -/
inductive HeaderError where
  | empty
  | missingContentLength
  | invalidContentLength (value : String)
  | contentTooLarge (length limit : Nat)
deriving DecidableEq

inductive FramingError where
  | header (error : HeaderError)
  | invalidContent (cause : ProtocolError)
deriving DecidableEq

def HeaderError.message : HeaderError → String
  | .empty => "Packet header is empty"
  | .missingContentLength => "Packet header declares no Content-Length"
  | .invalidContentLength value => "Invalid Content-Length value: " ++ value
  | .contentTooLarge length limit =>
    "Content-Length " ++ length.repr ++ " exceeds maximum " ++ limit.repr ++ " bytes"

def FramingError.message : FramingError → String
  | .header error => error.message
  | .invalidContent cause => "Packet content is not a valid LSP message: " ++ cause.message

end LanguageClient
