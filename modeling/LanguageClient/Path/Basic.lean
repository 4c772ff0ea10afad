import LanguageClient.Text.Split
import LanguageClient.Text.Utf8

set_option autoImplicit false

/-!
File paths: bytes in which slashes separate names. Empty names and single dots name nothing; two
dots stay, because what they mean hangs on the file system.
-/

namespace LanguageClient

abbrev Path := Bytes

namespace Path

def slash : UInt8 := 0x2F

def dot : UInt8 := 0x2E

def isAbsolute (path : Path) : Bool := path.head? = some slash

/-- The names on the way, root aside. -/
def names (path : Path) : List Bytes :=
  (Split.on slash path).filter fun name => name ≠ [] ∧ name ≠ [dot]

/-- The path seen from a folder; an absolute path is the same from everywhere. -/
def join (folder path : Path) : Path :=
  if isAbsolute path then path
  else if folder = [] ∨ folder.getLast? = some slash then folder ++ path
  else folder ++ slash :: path

/-- The name that a path ends in; going up a folder is no name. -/
def fileName? (path : Path) : Option Bytes :=
  match (names path).getLast? with
  | some name => if name = [dot, dot] then none else some name
  | none => none

/-- What follows the last dot of the file name; a dot that begins the name does not count. -/
def extension? (path : Path) : Option Bytes := do
  let name ← fileName? path
  let ending := name.reverse.takeWhile (· ≠ dot)
  if ending.length + 1 < name.length then return ending.reverse else none

def extensionText? (path : Path) : Option String := (extension? path).bind Utf8.text?

end Path

end LanguageClient
