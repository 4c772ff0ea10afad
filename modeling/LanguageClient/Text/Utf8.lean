set_option autoImplicit false

/-!
Bytes and their reading as UTF-8. A byte string splits, in one pass, into characters and maximal
ill-formed parts: a part ends before the first byte that cannot continue the character begun.
-/

namespace LanguageClient

/-- Bytes as pipes, files and paths hold them. -/
abbrev Bytes := List UInt8

namespace Utf8

structure Bounds where
  least : UInt8
  greatest : UInt8

def Bounds.admits (bounds : Bounds) (byte : UInt8) : Bool :=
  bounds.least ≤ byte && byte ≤ bounds.greatest

def continuation : Bounds := ⟨0x80, 0xBF⟩

/-- What must follow a first byte; `none` for a byte that begins no character. -/
def following (first : UInt8) : Option (List Bounds) :=
  if first < 0x80 then some []
  else if first < 0xC2 then none
  else if first < 0xE0 then some [continuation]
  else if first = 0xE0 then some [⟨0xA0, 0xBF⟩, continuation]
  else if first = 0xED then some [⟨0x80, 0x9F⟩, continuation]
  else if first < 0xF0 then some [continuation, continuation]
  else if first = 0xF0 then some [⟨0x90, 0xBF⟩, continuation, continuation]
  else if first < 0xF4 then some [continuation, continuation, continuation]
  else if first = 0xF4 then some [⟨0x80, 0x8F⟩, continuation, continuation]
  else none

/-- The character whose bytes are given; meant for bytes within the bounds of `following`. -/
def character : Bytes → Char
  | [a] => Char.ofNat a.toNat
  | [a, b] => Char.ofNat ((a.toNat % 32) * 64 + b.toNat % 64)
  | [a, b, c] => Char.ofNat ((a.toNat % 16) * 4096 + (b.toNat % 64) * 64 + c.toNat % 64)
  | [a, b, c, d] =>
    Char.ofNat ((a.toNat % 8) * 262144 + (b.toNat % 64) * 4096 + (c.toNat % 64) * 64 +
      d.toNat % 64)
  | _ => '\uFFFD'

inductive Piece where
  | character (value : Char)
  | illFormed (bytes : Bytes)
deriving DecidableEq

/-- The bytes seen of a character, and bounds on those still awaited. -/
structure Progress where
  seen : Bytes
  awaited : List Bounds

def Progress.idle : Progress := ⟨[], []⟩

def start (byte : UInt8) : List Piece × Progress :=
  match following byte with
  | none => ([.illFormed [byte]], .idle)
  | some [] => ([.character (character [byte])], .idle)
  | some awaited => ([], ⟨[byte], awaited⟩)

def step (progress : Progress) (byte : UInt8) : List Piece × Progress :=
  match progress.awaited with
  | [] => start byte
  | bounds :: later =>
    if bounds.admits byte then
      match later with
      | [] => ([.character (character (progress.seen ++ [byte]))], .idle)
      | _ :: _ => ([], ⟨progress.seen ++ [byte], later⟩)
    else
      ((.illFormed progress.seen) :: (start byte).1, (start byte).2)

/-- A character left open at the end of the bytes is an ill-formed part. -/
def finish (progress : Progress) : List Piece :=
  match progress.awaited with
  | [] => []
  | _ :: _ => [.illFormed progress.seen]

def piecesFrom : Progress → Bytes → List Piece
  | progress, [] => finish progress
  | progress, byte :: rest => (step progress byte).1 ++ piecesFrom (step progress byte).2 rest

def pieces (bytes : Bytes) : List Piece := piecesFrom .idle bytes

def Piece.character? : Piece → Option Char
  | .character value => some value
  | .illFormed _ => none

/-- The replacement character stands for a whole ill-formed part. -/
def Piece.orReplacement : Piece → Char
  | .character value => value
  | .illFormed _ => '\uFFFD'

def decode? (bytes : Bytes) : Option (List Char) := (pieces bytes).mapM Piece.character?

/-- The text of any bytes, with one replacement character per ill-formed part. -/
def decodeLossy (bytes : Bytes) : List Char := (pieces bytes).map Piece.orReplacement

def encode (text : List Char) : Bytes := text.flatMap String.utf8EncodeChar

def bytes (text : String) : Bytes := encode text.toList

def text? (bytes : Bytes) : Option String := (decode? bytes).map String.ofList

def lossyText (bytes : Bytes) : String := String.ofList (decodeLossy bytes)

end Utf8

end LanguageClient
