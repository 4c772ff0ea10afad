import LanguageClient.Server.Config

set_option autoImplicit false

namespace LanguageClient

structure Command where
  program : Path
  args : List Bytes
  /-- In ascending key order, one entry for each key. -/
  env : List (Bytes × Bytes)
  folder : Option Path
  /-- Whether every text can be handed over. -/
  representable : Bool
deriving DecidableEq

namespace Command

def setVariable (key value : Bytes) : List (Bytes × Bytes) → List (Bytes × Bytes)
  | [] => [(key, value)]
  | (name, held) :: rest =>
    if key < name then (key, value) :: (name, held) :: rest
    else if key = name then (key, value) :: rest
    else (name, held) :: setVariable key value rest

/-- Of several values for one key the last counts. -/
def environment (env : List (Bytes × Bytes)) : List (Bytes × Bytes) :=
  env.foldl (fun held (key, value) => setVariable key value held) []

def isText (text : Bytes) : Bool := !text.contains 0

def assignments (command : Command) : List Bytes :=
  command.env.map fun (key, value) => key ++ 0x3D :: value

/-- What a text with a zero byte is replaced by. -/
def placeholder : Bytes := Utf8.bytes "<string-with-nul>"

def orPlaceholder (text : Bytes) : Bytes := if isText text then text else placeholder

def ofConfig (config : ServerConfig) : Command where
  program := orPlaceholder config.program
  args := config.args.map orPlaceholder
  env := environment config.env
  folder := config.folder.map orPlaceholder
  representable := isText config.program && config.args.all isText &&
    (environment config.env).all (fun (key, value) => isText key && isText value) &&
    config.folder.all isText

end Command

end LanguageClient
