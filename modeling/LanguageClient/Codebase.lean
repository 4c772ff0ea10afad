import LanguageClient.Document.Language
import LanguageClient.Json.Decoder
import LanguageClient.Path.Uri

set_option autoImplicit false

namespace LanguageClient

structure Codebase where
  folder : Path
  languageName : String
  /-- The extensions of code files, without the dot. -/
  endings : List String
deriving DecidableEq

inductive Codebase.WriteError where
  | folderNotText
deriving DecidableEq

def Codebase.WriteError.message : Codebase.WriteError → String
  | .folderNotText => "path contains invalid UTF-8 characters"

namespace Codebase

def ofJson : Json.Decoder Codebase := fun value => do
  let source ← Json.Source.ofJson "CodebaseLocation" value
  let folder := source.slot 0 "folder" (.text "path string")
  let languageName := source.slot 1 "languageName" .string
  let endings := source.slot 2 "codeFileEndings" (.list .string)
  source.check "CodebaseLocation" [folder.status, languageName.status, endings.status]
  return ⟨Utf8.bytes (← folder.value), ← languageName.value, ← endings.value⟩

/-- Fields are written in the order in which they are declared. -/
def toJson (codebase : Codebase) : Except WriteError Json :=
  match Utf8.text? codebase.folder with
  | none => .error .folderNotText
  | some folder =>
    .ok (.object [("folder", .string folder), ("languageName", .string codebase.languageName),
      ("codeFileEndings", .array (codebase.endings.map .string))])

def language (codebase : Codebase) : Language := .ofName codebase.languageName

def isCodeFile (codebase : Codebase) (path : Path) : Bool :=
  (Path.extensionText? path).any codebase.endings.contains

def rootUri (current : Option Path) (codebase : Codebase) : String :=
  Uri.ofFolder current codebase.folder

end Codebase

end LanguageClient
