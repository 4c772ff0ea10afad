import LanguageClient.Log
import LanguageClient.Text.Split

set_option autoImplicit false

/-!
Records as a console shows them: control characters that a terminal would obey are written out, and
a record with newlines takes several lines. Whoever reads the console takes every line that looks
like a record for one.
-/

namespace LanguageClient

namespace Log

/-- The control characters of ASCII that are written out. -/
def obeyed : List Char := ['\x07', '\x08', '\x0c', '\x1b', '\x7f']

def hexDigits (c : Char) : List Char := Nat.toDigits 16 c.toNat

def escapeChar (c : Char) : List Char :=
  if obeyed.contains c then
    '\\' :: 'x' :: (if c.toNat < 16 then '0' :: hexDigits c else hexDigits c)
  else if 0x80 ≤ c.toNat ∧ c.toNat < 0xA0 then '\\' :: 'u' :: '\x7b' :: hexDigits c ++ ['\x7d']
  else [c]

def escape (text : String) : String := String.ofList (text.toList.flatMap escapeChar)

/-- The first line of a record as it is shown, and the lines that continue it. -/
def Record.shown (record : Record) : Record × List String :=
  match (Split.on '\n' (escape record.text).toList).map String.ofList with
  | [] => (record, [])
  | first :: rest => ({ record with text := first }, rest)

inductive Line where
  | record (level : Level) (text : String)
  | text (content : String)
deriving DecidableEq

/-- A carriage return at the end of a line is not seen. -/
def chopReturn (line : List Char) : List Char :=
  if line.getLast? = some '\r' then line.dropLast else line

/-- How long the time is that a record begins with. -/
def timeLength : Nat := 27

def zone : Char := 'Z'

/-- The level and the text of a line that begins with a time. -/
def readRecord? (line : List Char) : Option (Level × List Char) := do
  let time := line.take timeLength
  let ' ' :: rest := line.drop time.length | none
  if time.getLast? ≠ some zone then none
  else
    let rest := rest.dropWhile (· = ' ')
    [Level.debug, .info, .warn, .error].findSome? fun level =>
      (Split.afterPrefix? (level.label.toList ++ [' ']) rest).map fun text => (level, text)

def Line.ofText (line : String) : Line :=
  let seen := chopReturn line.toList
  match readRecord? seen with
  | some (level, content) => .record level (String.ofList content)
  | none => .text (String.ofList seen)

def Record.lines (record : Record) : List Line :=
  let (first, rest) := record.shown
  .record first.level (String.ofList (chopReturn first.text.toList)) :: rest.map Line.ofText

end Log

end LanguageClient
