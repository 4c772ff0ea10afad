import LanguageClient.Path.Basic
import LanguageClient.Scenario.Script
import LanguageClient.Text.Split

set_option autoImplicit false

namespace LanguageClient

namespace Shell

inductive Status where
  | exited (code : UInt8)
  | killed (signal : Nat)
deriving DecidableEq

inductive Tool where
  | shell
  | cat
  | echo
  | printf
  | head
  | sleep
  | pwd
  | succeed
  | fail
  | kill
deriving DecidableEq

def Tool.named : List (String × Tool) :=
  [("sh", .shell), ("cat", .cat), ("echo", .echo), ("printf", .printf), ("head", .head),
    ("sleep", .sleep), ("pwd", .pwd), ("true", .succeed), ("false", .fail), ("kill", .kill)]

structure Effect where
  output : Bytes := []
  errors : Bytes := []
  unread : Bytes
  status : Status := .exited 0

def processNumber : Bytes := Utf8.bytes "4711"

namespace Format

def escaped? (c : Char) : Option UInt8 :=
  [('t', 9), ('n', 10), ('r', 13), ('\\', 92)].lookup c

def isOctal (byte : UInt8) : Bool := 0x30 ≤ byte && byte ≤ 0x37

def octal (digits : Bytes) : UInt8 := digits.foldl (fun value digit => 8 * value + (digit - 0x30)) 0

/-- One use of a format: what is written, and the arguments that are left. A format is gone through
byte by byte, so its length is as much as is needed. -/
def writeOnce : Nat → Bytes → List Bytes → Bytes × List Bytes
  | left + 1, 0x5C :: byte :: rest, arguments =>
    let digits := ((byte :: rest).take 3).takeWhile isOctal
    if digits ≠ [] then
      let (later, unused) := writeOnce left ((byte :: rest).drop digits.length) arguments
      (octal digits :: later, unused)
    else
      let (later, unused) := writeOnce left rest arguments
      match escaped? (Script.Lexer.char byte) with
      | some value => (value :: later, unused)
      | none => (0x5C :: byte :: later, unused)
  | left + 1, 0x25 :: letter :: rest, arguments =>
    if letter = 0x25 then
      let (later, unused) := writeOnce left rest arguments
      (letter :: later, unused)
    else
      let (later, unused) := writeOnce left rest arguments.tail
      (arguments.headD [] ++ later, unused)
  | left + 1, byte :: rest, arguments =>
    let (later, unused) := writeOnce left rest arguments
    (byte :: later, unused)
  | _, _, arguments => ([], arguments)

/-- Uses a format again until all arguments are taken, at most so many times more. -/
def write (format : Bytes) : Nat → List Bytes → Bytes
  | 0, _ => []
  | rounds + 1, arguments =>
    let (now, unused) := writeOnce format.length format arguments
    if unused = [] ∨ unused.length = arguments.length then now
    else now ++ write format rounds unused

end Format

namespace Tool

def runEcho (arguments : List Bytes) : Bytes :=
  if arguments.head? = some (Utf8.bytes "-n") then [0x20].intercalate arguments.tail
  else [0x20].intercalate arguments ++ [0x0A]

def runHead (arguments : List Bytes) (input : Bytes) : Effect :=
  match arguments with
  | [_, count] =>
    let length := (Decimal.value? (Utf8.lossyText count).toList).getD 0
    { output := input.take length, unread := input.drop length }
  | _ => { unread := input, status := .exited 1 }

def runKill (arguments : List Bytes) (input : Bytes) : Effect :=
  match arguments with
  | [signal, process] =>
    match Decimal.value? (Utf8.lossyText signal.tail).toList with
    | some number =>
      if process = processNumber then { unread := input, status := .killed number }
      else { unread := input, status := .exited 1 }
    | none => { unread := input, status := .exited 2 }
  | _ => { unread := input, status := .exited 2 }

def run (tool : Tool) (folder : Path) (arguments : List Bytes) (input : Bytes) : Effect :=
  match tool with
  | .echo => { output := runEcho arguments, unread := input }
  | .printf =>
    { output := Format.write (arguments.headD []) (arguments.length + 1) arguments.tail
      unread := input }
  | .head => runHead arguments input
  | .cat => { output := input, unread := [] }
  | .kill => runKill arguments input
  | .pwd => { output := folder ++ [0x0A], unread := input }
  | .fail => { unread := input, status := .exited 1 }
  | .sleep | .shell | .succeed => { unread := input }

end Tool

structure Machine where
  name : Bytes
  arguments : List Bytes := []
  settings : List (Bytes × Bytes)
  folder : Path
  input : Bytes
  output : Bytes := []
  errors : Bytes := []
  code : UInt8 := 0
  ended : Option Status := none

namespace Machine

/-- Variables from assignments: a name ends at the first equals sign, and the last value counts. -/
def imported (assignments : List Bytes) : List (Bytes × Bytes) :=
  assignments.reverse.map fun assignment =>
    let name := assignment.takeWhile (· ≠ 0x3D)
    (name, assignment.drop (name.length + 1))

def values (machine : Machine) (name : Bytes) : List Bytes :=
  match Utf8.lossyText name with
  | "@" | "*" => machine.arguments
  | "?" => [Utf8.encode (Decimal.digits machine.code.toNat)]
  | "$" => [processNumber]
  | "#" => [Utf8.encode (Decimal.digits machine.arguments.length)]
  | text =>
    match Decimal.value? text.toList with
    | some 0 => [machine.name]
    | some (number + 1) => [machine.arguments.getD number []]
    | none => [(machine.settings.lookup name).getD []]

/-- The fields of a word, the last one first, and the one that is not complete yet. -/
structure Fields where
  complete : List Bytes := []
  current : Option Bytes := none

namespace Fields

def add (fields : Fields) (content : Bytes) : Fields :=
  { fields with current := some (fields.current.getD [] ++ content) }

def cut (fields : Fields) : Fields :=
  match fields.current with
  | some field => ⟨field :: fields.complete, none⟩
  | none => fields

def addSplit (fields : Fields) (value : Bytes) : Fields :=
  value.foldl (fun fields byte =>
    if byte = 0x20 ∨ byte = 0x09 ∨ byte = 0x0A then fields.cut else fields.add [byte]) fields

/-- Adds values, each of which begins a field but the first. -/
def addAll (add : Fields → Bytes → Fields) (fields : Fields) : List Bytes → Fields
  | [] => fields
  | [value] => add fields value
  | value :: rest => addAll add (add fields value).cut rest

end Fields

def expand (machine : Machine) (word : Script.Word) : List Bytes :=
  let fields := word.foldl (fun fields part =>
    match part with
    | .text content => fields.add content
    | .parameter name true => fields.addAll Fields.add (machine.values name)
    | .parameter name false => fields.addAll Fields.addSplit (machine.values name)) ({} : Fields)
  fields.cut.complete.reverse

def sink (redirections : List (Nat × Option Nat)) : Nat → Option Nat :=
  redirections.foldl (fun sink (stream, target) => fun number =>
    if number = stream then target.bind sink else sink number) some

def write (machine : Machine) (sink : Option Nat) (content : Bytes) : Machine :=
  match sink with
  | some 1 => { machine with output := machine.output ++ content }
  | some 2 => { machine with errors := machine.errors ++ content }
  | _ => machine

def exit (machine : Machine) (code : UInt8) : Machine :=
  { machine with code := code, ended := some (.exited code) }

/-- Ends a script on its first line with a complaint. -/
def complain (machine : Machine) (sink : Option Nat) (text : String) (code : UInt8) : Machine :=
  { machine.write sink (machine.name ++ Utf8.bytes (": 1: " ++ text ++ "\n")) with code := code }

def call (machine : Machine) (sink : Nat → Option Nat) (program : Bytes) (arguments : List Bytes) :
    Machine :=
  match Tool.named.lookup (Utf8.lossyText program) with
  | none => machine.complain (sink 2) (Utf8.lossyText program ++ ": not found") 127
  | some tool =>
    let effect := tool.run machine.folder arguments machine.input
    let done := (machine.write (sink 1) effect.output).write (sink 2) effect.errors
    let done := { done with input := effect.unread }
    match effect.status with
    | .exited code => { done with code := code }
    | .killed signal => { done with ended := some (.killed signal) }

def runWords (machine : Machine) (sink : Nat → Option Nat) : List Bytes → Machine
  | [] => machine
  | program :: arguments =>
    match Utf8.lossyText program, arguments with
    | "exit", [] => machine.exit machine.code
    | "exit", code :: _ =>
      machine.exit (UInt8.ofNat ((Decimal.value? (Utf8.lossyText code).toList).getD 2))
    | "exec", program :: arguments =>
      let done := machine.call sink program arguments
      if done.ended.isSome then done else done.exit done.code
    | _, _ => machine.call sink program arguments

def runCommand (machine : Machine) (command : Script.Command) : Machine :=
  let due := match command.joint with
    | .always => true
    | .afterSuccess => machine.code = 0
    | .afterFailure => machine.code ≠ 0
  if machine.ended.isSome || !due then machine
  else
    machine.runWords (sink command.redirections) (command.words.flatMap machine.expand)

def runScript (machine : Machine) (script : Bytes) : Machine :=
  match Script.commands? script with
  | some commands => commands.foldl runCommand machine
  | none => (machine.complain (some 2) "Syntax error: Unterminated quoted string" 2).exit 2

def runShell (machine : Machine) (arguments : List Bytes) : Machine :=
  match arguments with
  | [_, script] => machine.runScript script
  | _ :: script :: name :: rest =>
    { machine with name := name, arguments := rest }.runScript script
  | _ => machine

def status (machine : Machine) : Status := machine.ended.getD (.exited machine.code)

end Machine

end Shell

end LanguageClient
