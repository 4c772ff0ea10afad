import LanguageClient.CommandLine.Invocation

set_option autoImplicit false

/-!
Reading the arguments of a call. Options come first, then the name of an inquiry and its operands.
Arguments are read from left to right: a request for help counts as soon as it is met, and a fault
that is met before it counts instead. What an option or an operand is given is looked at only when
the next one begins, and what the last option is given only behind the inquiry.
-/

namespace LanguageClient

inductive Topic where
  | program
  | capabilities
  | symbols
  | references
  | workspaceSymbols
  | help
deriving DecidableEq

namespace Topic

def all : List Topic := [.program, .capabilities, .symbols, .references, .workspaceSymbols, .help]

/-- The name of an inquiry; the program as a whole needs none. -/
def name? : Topic → Option String
  | .program => none
  | .capabilities => some "capabilities"
  | .symbols => some "symbols"
  | .references => some "references"
  | .workspaceSymbols => some "workspace-symbols"
  | .help => some "help"

def ofName? (name : String) : Option Topic := all.find? (·.name? = some name)

def readsFile : Topic → Bool
  | .symbols | .references => true
  | .program | .capabilities | .workspaceSymbols | .help => false

def operandLimit : Topic → Nat
  | .symbols | .workspaceSymbols => 1
  | .references => 2
  | .program | .capabilities | .help => 0

end Topic

inductive Demand where
  | run (invocation : Invocation)
  | help (topic : Topic)
  | version
deriving DecidableEq

inductive Misuse where
  | unknownArgument (text : String)
  | unknownInquiry (name : String)
  | missingInquiry
  | missingArgument (name : String)
  | missingValue (name : String)
  | unexpectedValue (name : String)
  | repeated (name : String)
deriving DecidableEq

def Misuse.message : Misuse → String
  | .unknownArgument text => "unexpected argument '" ++ text ++ "' found"
  | .unknownInquiry name => "unrecognized subcommand '" ++ name ++ "'"
  | .missingInquiry => "a subcommand is required"
  | .missingArgument name => "the argument '" ++ name ++ "' is required"
  | .missingValue name => "a value is required for '" ++ name ++ "' but none was supplied"
  | .unexpectedValue name => "unexpected value for '" ++ name ++ "' found; no more were expected"
  | .repeated name => "the argument '" ++ name ++ "' cannot be used multiple times"

namespace Arguments

inductive Setting where
  | server
  | serverArg
  | root
  | language
deriving DecidableEq

def Setting.name : Setting → String
  | .server => "--server"
  | .serverArg => "--server-arg"
  | .root => "--root"
  | .language => "--language"

def Setting.ofName? (name : String) : Option Setting :=
  [Setting.server, .serverArg, .root, .language].find? (·.name = name)

/-- Arguments for the server look like options more often than not. -/
def Setting.takesOptions (setting : Setting) : Bool := setting = .serverArg

structure Options where
  server : Option Path := none
  serverArgs : List String := []
  root : Option Path := none
  language : Option String := none
  verbose : Bool := false

def path (setting : Setting) (held : Option Path) (value : String) : Except Misuse Path :=
  if value.isEmpty then .error (.missingValue setting.name)
  else if held.isSome then .error (.repeated setting.name)
  else .ok (Utf8.bytes value)

def Options.set (options : Options) (setting : Setting) (value : String) :
    Except Misuse Options := do
  match setting with
  | .server => return { options with server := some (← path setting options.server value) }
  | .serverArg => return { options with serverArgs := options.serverArgs ++ [value] }
  | .root => return { options with root := some (← path setting options.root value) }
  | .language =>
    if options.language.isSome then throw (.repeated setting.name)
    else return { options with language := some value }

def Options.beVerbose (options : Options) : Except Misuse Options :=
  if options.verbose then .error (.repeated "--verbose")
  else .ok { options with verbose := true }

def Options.invocation (options : Options) (inquiry : Inquiry) : Except Misuse Invocation :=
  match options.server with
  | none => .error (.missingArgument "--server")
  | some server => .ok {
      server := server
      serverArgs := options.serverArgs
      root := options.root.getD (Utf8.bytes ".")
      language := options.language.getD "rust"
      verbose := options.verbose
      inquiry := inquiry }

/-- Whether an argument is an option; a single dash is not. -/
def isOption (argument : List Char) : Bool :=
  argument.head? = some '-' && 1 < argument.length

/-- What an option comes to: the demand that ends the reading, or how the reading goes on. -/
inductive Progress where
  | done (demand : Demand)
  | more (options : Options)
  | await (options : Options) (setting : Setting)

def readLetters (options : Options) : List Char → Except Misuse Progress
  | [] => .ok (.more options)
  | 'h' :: _ => .ok (.done (.help .program))
  | 'V' :: _ => .ok (.done .version)
  | 'v' :: rest => do readLetters (← options.beVerbose) rest
  | other :: _ => .error (.unknownArgument (String.ofList ['-', other]))

/-- An option by its name, with a value behind an equals sign or none. -/
def readNamed (options : Options) (name : String) (value : Option String) :
    Except Misuse Progress := do
  match Setting.ofName? name with
  | some setting =>
    match value with
    | some value => return .more (← options.set setting value)
    | none => return .await options setting
  | none =>
    let flag : Except Misuse Progress :=
      if name = "--help" then .ok (.done (.help .program))
      else if name = "--version" then .ok (.done .version)
      else if name = "--verbose" then options.beVerbose.map .more
      else .error (.unknownArgument name)
    if value.isSome then
      let _ ← flag
      throw (.unexpectedValue name)
    else flag

def readOption (options : Options) (argument : List Char) : Except Misuse Progress :=
  match argument with
  | '-' :: '-' :: _ =>
    let name := argument.takeWhile (· ≠ '=')
    let value := (argument.drop name.length).tail?
    readNamed options (String.ofList name) (value.map String.ofList)
  | _ => readLetters options argument.tail

/-- The operands of an inquiry, at most so many; none if help is asked for. After two dashes
everything is an operand. A nameless file is a fault that counts before help. -/
def operands (topic : Topic) (limit : Nat) (escaped nameless : Bool) :
    List String → Except Misuse (Option (List String))
  | [] => .ok (some [])
  | argument :: rest =>
    let chars := argument.toList
    if !escaped && isOption chars then
      if chars = ['-', '-'] then operands topic limit true nameless rest
      else if argument = "--help" ∨ chars.take 2 = ['-', 'h'] then
        if nameless then .error (.missingValue "FILE") else .ok none
      else .error (.unknownArgument argument)
    else
      match limit with
      | 0 => .error (.unknownArgument argument)
      | limit + 1 => do
        let first := limit + 1 = topic.operandLimit
        let nameless := nameless || (topic.readsFile && first && argument.isEmpty)
        return (← operands topic limit escaped nameless rest).map (argument :: ·)

def inquiry (topic : Topic) (given : List String) : Except Misuse Inquiry := do
  let file (value : Option String) : Except Misuse Path :=
    match value with
    | none => .error (.missingArgument "FILE")
    | some "" => .error (.missingValue "FILE")
    | some value => .ok (Utf8.bytes value)
  match topic with
  | .symbols => return .symbols (← file given[0]?)
  | .references =>
    let file ← file given[0]?
    match given[1]? with
    | none => throw (.missingArgument "SYMBOL")
    | some symbol => return .references file symbol
  | .workspaceSymbols => return .workspaceSymbols (given.headD "")
  | _ => return .capabilities

inductive Pending where
  | nothing
  | awaited (setting : Setting)
  | given (setting : Setting) (value : String)

def Options.settle (options : Options) : Pending → Except Misuse Options
  | .nothing => .ok options
  | .awaited setting => .error (.missingValue setting.name)
  | .given setting value => options.set setting value

/-- The arguments after the options: a name and what belongs to it. -/
def readInquiry (options : Options) (pending : Pending) (name : String) (rest : List String) :
    Except Misuse Demand := do
  match Topic.ofName? name with
  | none => throw (.unknownInquiry name)
  | some .help =>
    match rest with
    | [] => return .help .program
    | [topic] =>
      match Topic.ofName? topic with
      | some topic => return .help topic
      | none => throw (.unknownInquiry topic)
    | _ :: second :: _ => throw (.unknownInquiry second)
  | some topic =>
    match ← operands topic topic.operandLimit false false rest with
    | none => return .help topic
    | some given =>
      let inquiry ← inquiry topic given
      let options ← options.settle pending
      return .run (← options.invocation inquiry)

def readFrom (options : Options) (pending : Pending) : List String → Except Misuse Demand
  | [] => do
    let _ ← options.settle pending
    throw .missingInquiry
  | argument :: rest => do
    let option := isOption argument.toList
    match pending with
    | .awaited setting =>
      if option && !setting.takesOptions then throw (.missingValue setting.name)
      else readFrom options (.given setting argument) rest
    | pending =>
      if option then
        match ← readOption (← options.settle pending) argument.toList with
        | .done demand => return demand
        | .more options => readFrom options .nothing rest
        | .await options setting => readFrom options (.awaited setting) rest
      else readInquiry options pending argument rest

end Arguments

def Demand.ofArguments (arguments : List String) : Except Misuse Demand :=
  Arguments.readFrom {} .nothing arguments

end LanguageClient
