import LanguageClient.Number.Decimal
import LanguageClient.Text.Utf8

set_option autoImplicit false

namespace LanguageClient

namespace Script

inductive Part where
  | text (content : Bytes)
  /-- Quotes keep the value from being cut into several words. -/
  | parameter (name : Bytes) (quoted : Bool)
deriving DecidableEq

abbrev Word := List Part

/-- When a command is run: always, or if the one before it succeeded, or if it failed. -/
inductive Joint where
  | always
  | afterSuccess
  | afterFailure
deriving DecidableEq

structure Command where
  joint : Joint := .always
  words : List Word := []
  /-- Streams, each with the one that takes its place; without one, what is written is lost. -/
  redirections : List (Nat × Option Nat) := []
deriving DecidableEq

inductive Token where
  | word (word : Word)
  | joint (joint : Joint)
  | redirect (stream : Nat)
deriving DecidableEq

inductive Mode where
  | plain
  | escaped
  | single
  | double
  | doubleEscaped
  | dollar (quoted : Bool)
  | name (text : Bytes) (quoted : Bool)
  | braces (text : Bytes) (quoted : Bool)
  /-- Behind an ampersand, a bar or an arrow, which may be doubled or followed by an ampersand. -/
  | mark (first : Char) (stream : Nat)
deriving DecidableEq

/-- The tokens, and the parts of the word that is read, the last ones first. -/
structure Lexer where
  tokens : List Token := []
  parts : Option Word := none
  mode : Mode := .plain

namespace Lexer

def char (byte : UInt8) : Char := Char.ofNat byte.toNat

def inMode (lexer : Lexer) (mode : Mode) : Lexer := { lexer with mode := mode }

def back (lexer : Lexer) (quoted : Bool) : Lexer :=
  lexer.inMode (if quoted then .double else .plain)

def add (lexer : Lexer) (part : Part) : Lexer :=
  { lexer with parts := some (part :: lexer.parts.getD []) }

def cut (lexer : Lexer) : Lexer :=
  match lexer.parts with
  | none => lexer
  | some parts => { lexer with tokens := .word parts.reverse :: lexer.tokens, parts := none }

def emit (lexer : Lexer) (token : Token) : Lexer :=
  { lexer.cut with tokens := token :: lexer.cut.tokens, mode := .plain }

/-- An arrow behind a word of one digit redirects the stream of that number. -/
def arrow (lexer : Lexer) : Lexer :=
  match lexer.parts with
  | some [.text [digit]] =>
    if (char digit).isDigit then
      { lexer with parts := none, mode := .mark '>' (digit.toNat - 48) }
    else lexer.cut.inMode (.mark '>' 1)
  | _ => lexer.cut.inMode (.mark '>' 1)

def plain (lexer : Lexer) (byte : UInt8) : Lexer :=
  match char byte with
  | ' ' | '\t' => lexer.cut.inMode .plain
  | ';' | '\n' => lexer.emit (.joint .always)
  | '&' => lexer.cut.inMode (.mark '&' 0)
  | '|' => lexer.cut.inMode (.mark '|' 0)
  | '>' => lexer.arrow
  | '\'' => (lexer.add (.text [])).inMode .single
  | '"' => (lexer.add (.text [])).inMode .double
  | '\\' => lexer.inMode .escaped
  | '$' => lexer.inMode (.dollar false)
  | _ => (lexer.add (.text [byte])).inMode .plain

def double (lexer : Lexer) (byte : UInt8) : Lexer :=
  match char byte with
  | '"' => lexer.inMode .plain
  | '\\' => lexer.inMode .doubleEscaped
  | '$' => lexer.inMode (.dollar true)
  | _ => (lexer.add (.text [byte])).inMode .double

def resume (lexer : Lexer) (quoted : Bool) (byte : UInt8) : Lexer :=
  if quoted then lexer.double byte else lexer.plain byte

def continuesName (c : Char) : Bool := c.isAlphanum || c = '_'

def step (lexer : Lexer) (byte : UInt8) : Lexer :=
  let c := char byte
  match lexer.mode with
  | .plain => lexer.plain byte
  | .escaped => (lexer.add (.text [byte])).inMode .plain
  | .single => if c = '\'' then lexer.inMode .plain else lexer.add (.text [byte])
  | .double => lexer.double byte
  | .doubleEscaped =>
    let content := if ['$', '"', '\\'].contains c then [byte] else [0x5C, byte]
    (lexer.add (.text content)).inMode .double
  | .dollar quoted =>
    if c = '\x7b' then lexer.inMode (.braces [] quoted)
    else if ['$', '?', '#', '@', '*'].contains c || c.isDigit then
      (lexer.add (.parameter [byte] quoted)).back quoted
    else if continuesName c then lexer.inMode (.name [byte] quoted)
    else (lexer.add (.text [0x24])).resume quoted byte
  | .name text quoted =>
    if continuesName c then lexer.inMode (.name (text ++ [byte]) quoted)
    else (lexer.add (.parameter text quoted)).resume quoted byte
  | .braces text quoted =>
    if c = '\x7d' then (lexer.add (.parameter text quoted)).back quoted
    else lexer.inMode (.braces (text ++ [byte]) quoted)
  | .mark first stream =>
    match first, c with
    | '&', '&' => lexer.emit (.joint .afterSuccess)
    | '|', '|' => lexer.emit (.joint .afterFailure)
    | '>', '&' => lexer.emit (.redirect stream)
    | '>', _ => (lexer.emit (.redirect stream)).plain byte
    | _, _ => (lexer.emit (.joint .always)).plain byte

def finish? (lexer : Lexer) : Option (List Token) :=
  match lexer.mode with
  | .plain | .mark _ _ => some lexer.cut.tokens.reverse
  | .escaped => some (lexer.add (.text [0x5C])).cut.tokens.reverse
  | .dollar false => some (lexer.add (.text [0x24])).cut.tokens.reverse
  | .name text false => some (lexer.add (.parameter text false)).cut.tokens.reverse
  | _ => none

end Lexer

def stream? (word : Word) : Option Nat :=
  match word with
  | [.text [digit]] =>
    if (Lexer.char digit).isDigit then some (digit.toNat - 48) else none
  | _ => none

def commandsFrom (command : Command) : List Token → List Command
  | [] => [command]
  | .word word :: rest => commandsFrom { command with words := command.words ++ [word] } rest
  | .redirect stream :: .word target :: rest =>
    commandsFrom { command with
      redirections := command.redirections ++ [(stream, stream? target)] } rest
  | .redirect _ :: rest => commandsFrom command rest
  | .joint joint :: rest => command :: commandsFrom { joint := joint } rest

def commands? (script : Bytes) : Option (List Command) :=
  (script.foldl Lexer.step {}).finish?.map (commandsFrom {})

end Script

end LanguageClient
