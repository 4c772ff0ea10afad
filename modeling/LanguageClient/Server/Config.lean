import LanguageClient.Log
import LanguageClient.Path.Basic

set_option autoImplicit false

namespace LanguageClient

structure ServerConfig where
  program : Path
  args : List Bytes := []
  env : List (Bytes × Bytes) := []
  folder : Option Path := none
deriving DecidableEq

namespace ServerConfig

def scriptExtensions : List String := ["js", "mjs", "cjs"]

def defaultInterpreter : Path := Utf8.bytes "node"

/-- Runs an executable by itself, and a script through the interpreter. -/
def forExecutable (interpreter : Option Path) (path : Path) : ServerConfig :=
  if (Path.extensionText? path).any scriptExtensions.contains then
    { program := interpreter.getD defaultInterpreter, args := [path] }
  else { program := path }

def withArgs (config : ServerConfig) (args : List Bytes) : ServerConfig :=
  { config with args := config.args ++ args }

def withEnv (config : ServerConfig) (key value : Bytes) : ServerConfig :=
  { config with env := config.env ++ [(key, value)] }

def inFolder (config : ServerConfig) (folder : Path) : ServerConfig :=
  { config with folder := some folder }

def display (config : ServerConfig) : String :=
  " ".intercalate ((config.program :: config.args).map Utf8.lossyText)

def starting (config : ServerConfig) : Log.Record :=
  ⟨.info, .process, "Starting LSP server: " ++ config.display⟩

def started (process : Nat) : Log.Record :=
  ⟨.debug, .process, "LSP server started (pid: Some(" ++ process.repr ++ "))"⟩

end ServerConfig

end LanguageClient
