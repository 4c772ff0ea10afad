import LanguageClient.Message.Basic
import LanguageClient.Text.Hex
import LanguageClient.Text.Split

set_option autoImplicit false

namespace LanguageClient

structure Uuid where
  high : UInt64
  low : UInt64
deriving DecidableEq

namespace Uuid

/-- Sets the bits that tell how the others were chosen. -/
def ofWords (high low : UInt64) : Uuid where
  high := (high &&& 0xFFFFFFFFFFFF0FFF) ||| 0x4000
  low := (low &&& 0x3FFFFFFFFFFFFFFF) ||| 0x8000000000000000

/-- Digits in groups of 8, 4, 4, 4 and 12. -/
def render (uuid : Uuid) : String :=
  let high := Hex.digits 16 uuid.high.toNat
  let low := Hex.digits 16 uuid.low.toNat
  String.ofList (high.take 8 ++ '-' :: (high.drop 8).take 4 ++ '-' :: high.drop 12 ++
    '-' :: low.take 4 ++ '-' :: low.drop 4)

def word? (text : List Char) : Option UInt64 := (Hex.number? text).map UInt64.ofNat

def textLength : Nat := 36

def ofChars? (text : List Char) : Option Uuid :=
  match Split.on '-' text with
  | [a, b, c, d, e] =>
    if [a, b, c, d, e].map List.length = [8, 4, 4, 4, 12] then do
      return ⟨← word? (a ++ b ++ c), ← word? (d ++ e)⟩
    else none
  | _ => none

/-- Whether the bits that tell say that the others were chosen by no rule. -/
def isRandom (uuid : Uuid) : Bool := uuid = ofWords uuid.high uuid.low

end Uuid

/-- Where fresh ids come from: chosen bits, and a count that makes each id differ from the ones
before it. -/
structure IdSource where
  seed : UInt64
  issued : UInt64 := 0
deriving DecidableEq

def IdSource.next (source : IdSource) : Id × IdSource :=
  (.text (Uuid.ofWords source.seed source.issued).render,
    { source with issued := source.issued + 1 })

end LanguageClient
