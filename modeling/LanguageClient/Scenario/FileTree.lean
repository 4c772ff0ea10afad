import LanguageClient.Path.Basic
import LanguageClient.SystemError

set_option autoImplicit false

namespace LanguageClient

/-- What a file holds: data, or a program that can be run. -/
inductive FileTree.Content (π : Type) where
  | data (bytes : Bytes)
  | program (program : π)

inductive FileTree.Entry (π : Type) where
  | folder
  | file (content : FileTree.Content π)

/-- Entries by their names from the root on. What lies above an entry is a folder. -/
structure FileTree (π : Type) where
  entries : List (List Bytes × FileTree.Entry π)

namespace FileTree

variable {π : Type}

def nameLimit : Nat := 255

def pathLimit : Nat := 4095

def entry? (tree : FileTree π) (names : List Bytes) : Option (Entry π) :=
  match tree.entries.find? (·.1 = names) with
  | some (_, entry) => some entry
  | none => if tree.entries.any (names.isPrefixOf ·.1) then some .folder else none

def isFolder (tree : FileTree π) (names : List Bytes) : Bool :=
  match tree.entry? names with
  | some .folder => true
  | _ => names = []

/-- Follows names from a place on. Two dots lead to the folder above; an empty name and a single
dot stay, but stand only behind a folder. -/
def walk (tree : FileTree π) (here : List Bytes) : List Bytes → Except SystemError (List Bytes)
  | [] => .ok here
  | name :: rest =>
    if !tree.isFolder here then .error .notFolder
    else if name = [] ∨ name = [Path.dot] then walk tree here rest
    else if name = [Path.dot, Path.dot] then walk tree here.dropLast rest
    else if nameLimit < name.length then .error .nameTooLong
    else if (tree.entry? (here ++ [name])).isSome then walk tree (here ++ [name]) rest
    else .error .missing

/-- The place that a path leads to, seen from a folder, however long the path is. -/
def follow (tree : FileTree π) (current path : Path) : Except SystemError (List Bytes) :=
  if path = [] then .error .missing
  else tree.walk [] (Split.on Path.slash (Path.join current path))

def resolve (tree : FileTree π) (current path : Path) : Except SystemError (List Bytes) :=
  if pathLimit < path.length then .error .nameTooLong else tree.follow current path

def pathOf (names : List Bytes) : Path :=
  if names = [] then [Path.slash] else names.flatMap (Path.slash :: ·)

/-- The shortest absolute path to a place. It is found name by name, so that only the names on the
way count. -/
def canonical (tree : FileTree π) (current path : Path) : Except SystemError Path :=
  (tree.follow current path).map pathOf

def notText : Bytes := [0xFF]

def read (tree : FileTree π) (current path : Path) : Except SystemError Bytes := do
  let place ← tree.resolve current path
  match tree.entry? place with
  | some (.file (.data bytes)) => return bytes
  | some (.file (.program _)) => return notText
  | some .folder => throw .isFolder
  | none => throw .isFolder

def enter (tree : FileTree π) (current path : Path) : Except SystemError Path := do
  let place ← tree.resolve current path
  if tree.isFolder place then return pathOf place else throw .notFolder

def execute (tree : FileTree π) (current path : Path) : Except SystemError π := do
  let place ← tree.resolve current path
  match tree.entry? place with
  | some (.file (.program program)) => return program
  | _ => throw .forbidden

/-- Searches folders for a program. A folder without it is passed over; if none has it, that one was
found but cannot be run counts more than how the last search ended. -/
def search (tree : FileTree π) (current : Path) (name : Bytes) (last : SystemError) :
    List Path → Except SystemError π
  | [] => .error last
  | folder :: rest =>
    match tree.execute current (Path.join folder name) with
    | .ok program => .ok program
    | .error .forbidden => search tree current name .forbidden rest
    | .error .missing => search tree current name (passed .missing) rest
    | .error .notFolder => search tree current name (passed .notFolder) rest
    | .error error => .error error
where
  passed (now : SystemError) : SystemError := if last = .forbidden then .forbidden else now

/-- A program by its path, or by its name alone in the folders that are searched. -/
def program (tree : FileTree π) (current : Path) (folders : List Path) (path : Path) :
    Except SystemError π :=
  if path = [] then .error .missing
  else if path.contains Path.slash then tree.execute current path
  else tree.search current path .missing folders

end FileTree

end LanguageClient
