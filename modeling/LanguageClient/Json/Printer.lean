import LanguageClient.Json.Basic
import LanguageClient.Number.Shortest
import LanguageClient.Text.Utf8

set_option autoImplicit false

namespace LanguageClient

namespace Json

/-- Doubles are positional from `10 ^ -5` up to, and not including, `10 ^ 16`. -/
def doubleLayout : Decimal.Layout := ⟨-5, 16⟩

def escapeChar (c : Char) : List Char :=
  if c = '"' then ['\\', '"']
  else if c = '\\' then ['\\', '\\']
  else if c = '\x08' then ['\\', 'b']
  else if c = '\t' then ['\\', 't']
  else if c = '\n' then ['\\', 'n']
  else if c = '\x0C' then ['\\', 'f']
  else if c = '\r' then ['\\', 'r']
  else if c.toNat < 0x20 then
    ['\\', 'u', '0', '0', Nat.digitChar (c.toNat / 16), Nat.digitChar (c.toNat % 16)]
  else [c]

def stringChars (text : String) : List Char := '"' :: text.toList.flatMap escapeChar ++ ['"']

def numberChars : Number → List Char
  | .integer whole => Decimal.signed whole.value
  | .double real => real.chars doubleLayout

def boolChars : Bool → List Char
  | true => ['t', 'r', 'u', 'e']
  | false => ['f', 'a', 'l', 's', 'e']

mutual

def chars : Json → List Char
  | .null => ['n', 'u', 'l', 'l']
  | .bool value => boolChars value
  | .number value => numberChars value
  | .string value => stringChars value
  | .array elements => '[' :: elementChars elements ++ [']']
  | .object members => '\x7b' :: memberChars members ++ ['\x7d']

def elementChars : List Json → List Char
  | [] => []
  | value :: rest => value.chars ++ furtherElementChars rest

def furtherElementChars : List Json → List Char
  | [] => []
  | value :: rest => ',' :: value.chars ++ furtherElementChars rest

def memberChars : List (String × Json) → List Char
  | [] => []
  | (key, value) :: rest => stringChars key ++ ':' :: value.chars ++ furtherMemberChars rest

def furtherMemberChars : List (String × Json) → List Char
  | [] => []
  | (key, value) :: rest =>
    ',' :: stringChars key ++ ':' :: value.chars ++ furtherMemberChars rest

end

def render (value : Json) : String := String.ofList value.chars

def encode (value : Json) : Bytes := Utf8.encode value.chars

def indent (level : Nat) : List Char := '\n' :: List.replicate (2 * level) ' '

mutual

/-- Two spaces a level, and nothing between the brackets of an empty array or object. -/
def indentedChars (level : Nat) : Json → List Char
  | .null => ['n', 'u', 'l', 'l']
  | .bool value => boolChars value
  | .number value => numberChars value
  | .string value => stringChars value
  | .array [] => ['[', ']']
  | .object [] => ['\x7b', '\x7d']
  | .array (value :: rest) =>
    '[' :: indent (level + 1) ++ indentedChars (level + 1) value ++
      furtherIndentedElements (level + 1) rest ++ indent level ++ [']']
  | .object ((key, value) :: rest) =>
    '\x7b' :: indent (level + 1) ++ stringChars key ++ ':' :: ' ' ::
      indentedChars (level + 1) value ++ furtherIndentedMembers (level + 1) rest ++
      indent level ++ ['\x7d']

def furtherIndentedElements (level : Nat) : List Json → List Char
  | [] => []
  | value :: rest =>
    ',' :: indent level ++ indentedChars level value ++ furtherIndentedElements level rest

def furtherIndentedMembers (level : Nat) : List (String × Json) → List Char
  | [] => []
  | (key, value) :: rest =>
    ',' :: indent level ++ stringChars key ++ ':' :: ' ' :: indentedChars level value ++
      furtherIndentedMembers level rest

end

def renderIndented (value : Json) : String := String.ofList (indentedChars 0 value)

end Json

end LanguageClient
