import LanguageClient.Json.Literal

set_option autoImplicit false

/-!
Reading JSON from bytes. The bytes are read from left to right and the first fault is reported.
A value may open at most 127 arrays and objects inside one another. Of members with one key the
last counts.
-/

namespace LanguageClient

namespace Json

def isBlank (byte : UInt8) : Bool :=
  byte = 0x20 || byte = 0x09 || byte = 0x0A || byte = 0x0D

def skipBlank (input : Bytes) : Bytes := input.dropWhile isBlank

def readLetters : Bytes → Bytes → Except SyntaxError Bytes
  | [], input => .ok input
  | _ :: _, [] => .error .endInValue
  | letter :: letters, byte :: rest =>
    if byte = letter then readLetters letters rest else .error .identExpected

def hexDigit? (byte : UInt8) : Option Nat :=
  if 0x30 ≤ byte ∧ byte ≤ 0x39 then some (byte.toNat - 0x30)
  else if 0x41 ≤ byte ∧ byte ≤ 0x46 then some (byte.toNat - 0x37)
  else if 0x61 ≤ byte ∧ byte ≤ 0x66 then some (byte.toNat - 0x57)
  else none

def hexUnit? (a b c d : UInt8) : Option Nat := do
  return (((← hexDigit? a) * 16 + (← hexDigit? b)) * 16 + (← hexDigit? c)) * 16 + (← hexDigit? d)

def isLeadingSurrogate (unit : Nat) : Bool := 0xD800 ≤ unit && unit ≤ 0xDBFF

def isTrailingSurrogate (unit : Nat) : Bool := 0xDC00 ≤ unit && unit ≤ 0xDFFF

def surrogatePair (leading trailing : Nat) : Char :=
  Char.ofNat (0x10000 + (leading - 0xD800) * 0x400 + (trailing - 0xDC00))

def escaped? (letter : UInt8) : Option UInt8 :=
  if letter = 0x22 ∨ letter = 0x5C ∨ letter = 0x2F then some letter
  else if letter = 0x62 then some 0x08
  else if letter = 0x66 then some 0x0C
  else if letter = 0x6E then some 0x0A
  else if letter = 0x72 then some 0x0D
  else if letter = 0x74 then some 0x09
  else none

/-- Bytes of a character before bytes held in reverse. -/
def pushChar (c : Char) (reversed : Bytes) : Bytes :=
  (String.utf8EncodeChar c).reverse ++ reversed

/-- The rest of a string whose opening quote has been read; what was read of it is held in
reverse. Whether the bytes form a text is seen at the closing quote. -/
def readString (reversed : Bytes) : Reader String
  | [] => .error .endInString
  | byte :: rest =>
    if byte = 0x22 then
      match Utf8.text? reversed.reverse with
      | some text => .ok (text, rest)
      | none => .error .invalidUnicode
    else if byte = 0x5C then
      match rest with
      | [] => .error .endInString
      | letter :: rest =>
        if letter = 0x75 then
          match rest with
          | a :: b :: c :: d :: rest =>
            match hexUnit? a b c d with
            | none => .error .invalidEscape
            | some unit =>
              if isTrailingSurrogate unit then .error .loneSurrogate
              else if isLeadingSurrogate unit then
                match rest with
                | [] => .error .endInString
                | [slash] =>
                  if slash = 0x5C then .error .endInString else .error .surrogateEscapeCut
                | slash :: letter :: rest =>
                  if slash ≠ 0x5C ∨ letter ≠ 0x75 then .error .surrogateEscapeCut
                  else
                    match rest with
                    | a :: b :: c :: d :: rest =>
                      match hexUnit? a b c d with
                      | none => .error .invalidEscape
                      | some trailing =>
                        if isTrailingSurrogate trailing then
                          readString (pushChar (surrogatePair unit trailing) reversed) rest
                        else .error .loneSurrogate
                    | _ => .error .endInString
              else readString (pushChar (Char.ofNat unit) reversed) rest
          | _ => .error .endInString
        else
          match escaped? letter with
          | some value => readString (value :: reversed) rest
          | none => .error .invalidEscape
    else if byte < 0x20 then .error .controlCharacter
    else readString (byte :: reversed) rest

/-- The elements of an array from its first on, at most so many. Each takes at least one byte. -/
def readElements (readInner : Reader Json) : Nat → List Json → Reader Json
  | 0, _, _ => .error .endInList
  | steps + 1, reversed, input => do
    let (value, input) ← readInner input
    match skipBlank input with
    | [] => .error .endInList
    | byte :: rest =>
      if byte = 0x5D then .ok (.array (value :: reversed).reverse, rest)
      else if byte = 0x2C then
        if (skipBlank rest).head? = some 0x5D then .error .trailingComma
        else readElements readInner steps (value :: reversed) rest
      else .error .listSeparatorExpected

def readArray (steps : Nat) (readInner : Reader Json) : Reader Json := fun input =>
  match skipBlank input with
  | [] => .error .endInList
  | byte :: rest =>
    if byte = 0x5D then .ok (.array [], rest)
    else readElements readInner steps [] (byte :: rest)

/-- A key and the colon after it; the opening quote of the key has been read. -/
def readKey : Reader String := fun input => do
  let (key, input) ← readString [] input
  match skipBlank input with
  | [] => .error .endInObject
  | byte :: rest => if byte = 0x3A then .ok (key, rest) else .error .colonExpected

/-- The members of an object from its first key on, at most so many. The opening quote of the key
has been read. -/
def readMembers (readInner : Reader Json) : Nat → List (String × Json) → Reader Json
  | 0, _, _ => .error .endInObject
  | steps + 1, held, input => do
    let (key, input) ← readKey input
    let (value, input) ← readInner input
    match skipBlank input with
    | [] => .error .endInObject
    | byte :: rest =>
      if byte = 0x7D then .ok (.object (insert key value held), rest)
      else if byte = 0x2C then
        match skipBlank rest with
        | [] => .error .endInValue
        | byte :: rest =>
          if byte = 0x22 then readMembers readInner steps (insert key value held) rest
          else if byte = 0x7D then .error .trailingComma
          else .error .keyExpected
      else .error .objectSeparatorExpected

def readObject (steps : Nat) (readInner : Reader Json) : Reader Json := fun input =>
  match skipBlank input with
  | [] => .error .endInObject
  | byte :: rest =>
    if byte = 0x7D then .ok (.object [], rest)
    else if byte = 0x22 then readMembers readInner steps [] rest
    else .error .keyExpected

/-- A value whose elements and members are read by the given reader; without one, the value may
open no array and no object. -/
def readWith (steps : Nat) (readInner? : Option (Reader Json)) : Reader Json := fun input =>
  match skipBlank input with
  | [] => .error .endInValue
  | byte :: rest =>
    if byte = 0x6E then (readLetters [0x75, 0x6C, 0x6C] rest).map (.null, ·)
    else if byte = 0x74 then (readLetters [0x72, 0x75, 0x65] rest).map (.bool true, ·)
    else if byte = 0x66 then (readLetters [0x61, 0x6C, 0x73, 0x65] rest).map (.bool false, ·)
    else if byte = 0x2D ∨ isDigit byte then do
      let (literal, rest) ← Literal.read (byte :: rest)
      return (.number (← literal.value), rest)
    else if byte = 0x22 then (readString [] rest).map fun (text, rest) => (.string text, rest)
    else if byte = 0x5B then
      match readInner? with
      | some readInner => readArray steps readInner rest
      | none => .error .tooDeep
    else if byte = 0x7B then
      match readInner? with
      | some readInner => readObject steps readInner rest
      | none => .error .tooDeep
    else .error .valueExpected

/-- A value that opens at most so many arrays and objects inside one another, none of them with
more than so many parts. -/
def readValue (steps : Nat) : Nat → Reader Json
  | 0 => readWith steps none
  | levels + 1 => readWith steps (some (readValue steps levels))

def depthLimit : Nat := 127

/-- The value that bytes write, with blanks around it. No value has more parts than bytes. -/
def parse (input : Bytes) : Except SyntaxError Json := do
  let (value, rest) ← readValue input.length depthLimit input
  if (skipBlank rest).isEmpty then return value else .error .trailingCharacters

def parseText (text : String) : Except SyntaxError Json := parse (Utf8.bytes text)

end Json

end LanguageClient
