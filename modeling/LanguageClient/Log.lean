set_option autoImplicit false

namespace LanguageClient

inductive Log.Level where
  | debug
  | info
  | warn
  | error
deriving DecidableEq

def Log.Level.label : Log.Level → String
  | .debug => "DEBUG"
  | .info => "INFO"
  | .warn => "WARN"
  | .error => "ERROR"

/-- The part of the program that a record comes from; filters name it by its path. -/
inductive Log.Origin where
  | commandLine
  | client
  | calls
  | detector
  | events
  | stream
  | process
  | documents
deriving DecidableEq

def Log.Origin.path : Log.Origin → String
  | .commandLine => "lsp_wire"
  | .client => "lsp_wire::client"
  | .calls => "lsp_wire::client::typed"
  | .detector => "lsp_wire::packet::detector"
  | .events => "lsp_wire::transport"
  | .stream => "lsp_wire::transport::stream"
  | .process => "lsp_wire::transport::process"
  | .documents => "lsp_wire::protocol::types"

structure Log.Record where
  level : Log.Level
  origin : Log.Origin
  text : String
deriving DecidableEq

abbrev Log := List Log.Record

def Log.Record.line (record : Log.Record) : String := record.level.label ++ " " ++ record.text

end LanguageClient
