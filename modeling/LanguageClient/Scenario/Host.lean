import LanguageClient.Scenario.FileTree
import LanguageClient.Scenario.Shell
import LanguageClient.Server.Command

set_option autoImplicit false

namespace LanguageClient

inductive Program where
  | tool (tool : Shell.Tool)
  /-- A server that answers by a script of its own. -/
  | scripted
deriving DecidableEq

structure Host where
  tree : FileTree Program
  current : Path

namespace Host

def names (path : String) : List Bytes := Path.names (Utf8.bytes path)

def tools (folder : String) : List (List Bytes × FileTree.Entry Program) :=
  Shell.Tool.named.map fun (name, tool) =>
    (names folder ++ [Utf8.bytes name], .file (.program (.tool tool)))

def folders : List (List Bytes × FileTree.Entry Program) :=
  ["/dev", "/etc", "/home", "/root", "/tmp", "/usr/lib", "/usr/local/bin", "/var/tmp"].map
    fun path => (names path, .folder)

/-- Files that are always there, and that nobody can run. -/
def files : List (List Bytes × FileTree.Entry Program) :=
  ["/dev/null", "/dev/zero", "/etc/group", "/etc/hostname", "/etc/hosts", "/etc/passwd"].map
    fun path => (names path, .file (.data []))

def withFiles (own : List (List Bytes × FileTree.Entry Program)) (current : Path) : Host :=
  ⟨⟨own ++ files ++ tools "/usr/bin" ++ tools "/bin" ++ folders⟩, current⟩

/-- A program that was found for a command, and the folder that it runs in. -/
structure Launch where
  program : Program
  folder : Path

def searched : List Path :=
  ["/usr/local/sbin", "/usr/local/bin", "/usr/sbin", "/usr/bin", "/sbin", "/bin"].map Utf8.bytes

def searchedIn (settings : List (Bytes × Bytes)) : List Path :=
  ((settings.lookup (Utf8.bytes "PATH")).map (Split.on 0x3A)).getD searched

def argumentLimit : Nat := 128 * 1024 - 1

/-- Looks for what a command names; the reason if it cannot be run. -/
def launch (host : Host) (command : Command) : Except String Launch := do
  if !command.representable then throw "nul byte found in provided data"
  let folder ← match command.folder with
    | none => pure host.current
    | some path => (host.tree.enter host.current path).mapError SystemError.message
  let folders := searchedIn command.env
  let program ← (host.tree.program folder folders command.program).mapError SystemError.message
  if (command.program :: command.args ++ command.assignments).any (argumentLimit < ·.length) then
    throw SystemError.argumentTooLong.message
  return ⟨program, folder⟩

end Host

structure ProcessOutput where
  output : Bytes := []
  errors : Bytes := []
  status : Shell.Status := .exited 0

def Shell.Tool.launched (tool : Shell.Tool) (folder : Path) (command : Command) (input : Bytes) :
    ProcessOutput :=
  match tool with
  | .shell =>
    let machine : Shell.Machine := {
      name := command.program
      settings := Shell.Machine.imported command.assignments
      folder := folder
      input := input }
    let done := machine.runShell command.args
    ⟨done.output, done.errors, done.status⟩
  | _ =>
    let effect := tool.run folder command.args input
    ⟨effect.output, effect.errors, effect.status⟩

end LanguageClient
