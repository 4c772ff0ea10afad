set_option autoImplicit false

namespace LanguageClient

namespace Decimal

/-- The digits of a number without leading zeros; zero is the single digit 0. -/
def digits (value : Nat) : List Char := Nat.toDigits 10 value

/-- The number that digits write, or the bound if that is less. -/
def bounded (bound : Nat) (text : List Char) : Nat :=
  text.foldl (fun total c => min bound (10 * total + (c.toNat - '0'.toNat))) 0

theorem bounded_eq (bound : Nat) (text : List Char) :
    bounded bound text = min bound (Nat.ofDigitChars 10 text 0) := by
  suffices general : ∀ start, text.foldl
      (fun total c => min bound (10 * total + (c.toNat - '0'.toNat))) (min bound start) =
        min bound (Nat.ofDigitChars 10 text start) by
    simpa [bounded] using general 0
  induction text with
  | nil => intro start; rfl
  | cons c rest ih =>
    intro start
    rw [Nat.ofDigitChars_cons, ← ih, List.foldl_cons]
    congr 1
    omega

def isNumber (text : List Char) : Bool := text ≠ [] && text.all Char.isDigit

def value? (text : List Char) : Option Nat :=
  if isNumber text then some (Nat.ofDigitChars 10 text 0) else none

def unsigned (text : List Char) : List Char :=
  match text with
  | '+' :: rest => rest
  | _ => text

/-- A number with an optional plus sign, below a bound. -/
def below? (bound : Nat) (text : List Char) : Option Nat :=
  if isNumber (unsigned text) then
    let value := bounded bound (unsigned text)
    if value < bound then some value else none
  else none

theorem below?_eq (bound : Nat) (text : List Char) :
    below? bound text = (value? (unsigned text)).filter (· < bound) := by
  unfold below? value?
  split
  · rw [bounded_eq, Option.filter_some]
    by_cases small : Nat.ofDigitChars 10 (unsigned text) 0 < bound
    · simp [small, Nat.min_eq_right (Nat.le_of_lt small)]
    · simp [small, Nat.min_eq_left (Nat.le_of_not_lt small)]
  · rfl

def signed (value : Int) : List Char :=
  if value < 0 then '-' :: digits value.natAbs else digits value.natAbs

end Decimal

structure Decimal where
  significand : Nat
  exponent : Int
deriving DecidableEq, Repr

namespace Decimal

/-- Moves trailing zeros of the significand into the exponent. -/
def strip : Nat → Decimal → Decimal
  | 0, number => number
  | steps + 1, number =>
    if number.significand % 10 = 0 then
      strip steps ⟨number.significand / 10, number.exponent + 1⟩
    else number

/-- Between which powers of ten a number is written without an exponent. -/
structure Layout where
  leastPower : Int
  powerLimit : Int

/-- Writes a nonzero decimal. Positional notation has a digit on both sides of the point; the
other has one digit before it, and an exponent with its sign. -/
def chars (layout : Layout) (number : Decimal) : List Char :=
  let row := digits number.significand
  let power : Int := row.length - 1 + number.exponent
  if layout.leastPower ≤ power ∧ power < layout.powerLimit then
    if 0 ≤ number.exponent then
      row ++ List.replicate number.exponent.toNat '0' ++ ['.', '0']
    else if 0 ≤ power then
      row.take (power.toNat + 1) ++ '.' :: row.drop (power.toNat + 1)
    else
      '0' :: '.' :: List.replicate (-power - 1).toNat '0' ++ row
  else
    let fraction := match row.tail with
      | [] => []
      | rest => '.' :: rest
    let sign := if power < 0 then '-' else '+'
    row.take 1 ++ fraction ++ 'e' :: sign :: digits power.natAbs

end Decimal

end LanguageClient
