import LanguageClient.Json.Basic
import LanguageClient.Json.SyntaxError
import LanguageClient.Text.Utf8

set_option autoImplicit false

/-!
Number literals: their grammar, and the number that each stands for. A literal without fraction
and exponent is exact within the range of `Json.Integer`. Any other literal takes as many of its
digits as fit into 64 bits and scales them by a power of ten, in double precision, with a
rounding after each operation.
-/

namespace LanguageClient

namespace Json

abbrev Reader (α : Type) := Bytes → Except SyntaxError (α × Bytes)

def isDigit (byte : UInt8) : Bool := 0x30 ≤ byte && byte ≤ 0x39

def digit (byte : UInt8) : Nat := byte.toNat - 0x30

structure Literal where
  negative : Bool
  whole : List Nat
  fraction : Option (List Nat)
  exponent : Option (Bool × List Nat)
deriving DecidableEq

namespace Literal

def takeDigits (input : Bytes) : List Nat × Bytes :=
  ((input.takeWhile isDigit).map digit, input.dropWhile isDigit)

def readDigits : Reader (List Nat)
  | [] => .error .endInValue
  | byte :: rest =>
    if isDigit byte then .ok (takeDigits (byte :: rest)) else .error .invalidNumber

/-- The digits before the point: a zero stands alone. -/
def readWhole : Reader (List Nat)
  | [] => .error .endInValue
  | byte :: rest =>
    if byte = 0x30 then
      match rest with
      | next :: _ => if isDigit next then .error .invalidNumber else .ok ([0], rest)
      | [] => .ok ([0], rest)
    else if isDigit byte then .ok (takeDigits (byte :: rest))
    else .error .invalidNumber

def readFraction : Reader (Option (List Nat))
  | [] => .ok (none, [])
  | byte :: rest =>
    if byte = 0x2E then (readDigits rest).map fun (digits, rest) => (some digits, rest)
    else .ok (none, byte :: rest)

/-- The sign of an exponent, true for a minus. -/
def takeSign : Bytes → Bool × Bytes
  | [] => (false, [])
  | byte :: rest =>
    if byte = 0x2B then (false, rest) else if byte = 0x2D then (true, rest)
    else (false, byte :: rest)

def readExponent : Reader (Option (Bool × List Nat))
  | [] => .ok (none, [])
  | byte :: rest =>
    if byte = 0x65 ∨ byte = 0x45 then
      (readDigits (takeSign rest).2).map fun (digits, rest') =>
        (some ((takeSign rest).1, digits), rest')
    else .ok (none, byte :: rest)

def readUnsigned (negative : Bool) : Reader Literal := fun input => do
  let (whole, input) ← readWhole input
  let (fraction, input) ← readFraction input
  let (exponent, input) ← readExponent input
  return (⟨negative, whole, fraction, exponent⟩, input)

def read : Reader Literal
  | [] => .error .endInValue
  | byte :: rest =>
    if byte = 0x2D then readUnsigned true rest else readUnsigned false (byte :: rest)

def wordLimit : Nat := 0x10000000000000000

/-- Appends digits to a number while it stays below the limit; the digits that are left over. -/
def accumulate (number : Nat) : List Nat → Nat × List Nat
  | [] => (number, [])
  | digit :: rest =>
    if number * 10 + digit < wordLimit then accumulate (number * 10 + digit) rest
    else (number, digit :: rest)

/-- The largest power of ten below infinity. -/
def largestPower : Nat := 308

def powerOfTen (power : Nat) : Nat := Binary64.ofNat (Nat.pow 10 power)

/-- Divides by the largest power of ten until the exponent that is left is within its reach, or
nothing is left of the number; the exponent counts down. -/
def scaleDown : Nat → Nat → Nat → Nat
  | 0, magnitude, power => Binary64.quotient magnitude (powerOfTen power)
  | steps + 1, magnitude, power =>
    if power ≤ largestPower then Binary64.quotient magnitude (powerOfTen power)
    else if magnitude = 0 then 0
    else
      scaleDown steps (Binary64.quotient magnitude (powerOfTen largestPower))
        (power - largestPower)

/-- The double for `significand * 10 ^ exponent`, unless it is infinite. -/
def toDouble (negative : Bool) (significand : Nat) (exponent : Int) :
    Except SyntaxError Binary64 :=
  let magnitude := Binary64.ofNat significand
  let scaled :=
    if exponent < 0 then scaleDown (exponent.natAbs / largestPower) magnitude exponent.natAbs
    else if exponent ≤ largestPower then Binary64.product magnitude (powerOfTen exponent.natAbs)
    else if magnitude = 0 then 0
    else Binary64.infinity
  match Binary64.ofMagnitude? negative scaled with
  | some double => .ok double
  | none => .error .numberOutOfRange

/-- An exponent beyond 31 bits makes any number zero or infinite. -/
def exponentLimit : Nat := 0x80000000

def value (literal : Literal) : Except SyntaxError Number :=
  let (significand, dropped) := accumulate 0 literal.whole
  if literal.fraction.isNone ∧ literal.exponent.isNone ∧ dropped.isEmpty then
    if literal.negative then
      if small : 0 < significand ∧ significand ≤ 0x8000000000000000 then
        .ok (.integer ⟨-significand, by omega, by omega⟩)
      else (toDouble true significand 0).map .double
    else if small : significand < 0x10000000000000000 then
      .ok (.integer ⟨significand, by omega, by omega⟩)
    else (toDouble false significand 0).map .double
  else
    let fraction := literal.fraction.getD []
    let (significand, unread) := accumulate significand fraction
    let exponent : Int := dropped.length - (fraction.length - unread.length : Nat)
    match literal.exponent with
    | none => (toDouble literal.negative significand exponent).map .double
    | some (downward, digits) =>
      let power := digits.foldl (fun value digit => min exponentLimit (value * 10 + digit)) 0
      if power < exponentLimit then
        let exponent := if downward then exponent - power else exponent + power
        (toDouble literal.negative significand exponent).map .double
      else if significand = 0 ∨ downward then .ok (.double (.zero literal.negative))
      else .error .numberOutOfRange

end Literal

end Json

end LanguageClient
