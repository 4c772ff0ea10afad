import LanguageClient.Path.Basic

set_option autoImplicit false

namespace LanguageClient

inductive Inquiry where
  | capabilities
  | symbols (file : Path)
  /-- The places that refer to the first symbol of a name in a file. -/
  | references (file : Path) (symbol : String)
  | workspaceSymbols (query : String)
deriving DecidableEq

structure Invocation where
  server : Path
  serverArgs : List String
  root : Path
  /-- The everyday name of the language of the documents. -/
  language : String
  verbose : Bool
  inquiry : Inquiry
deriving DecidableEq

end LanguageClient
