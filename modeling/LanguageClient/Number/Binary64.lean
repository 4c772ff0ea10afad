set_option autoImplicit false

/-!
Finite double precision numbers in exact arithmetic. A magnitude is the low 63 bits of the
encoding, so magnitudes are ordered as the numbers are and neighbours differ by one. Every finite
double is a natural multiple of `2 ^ -1074`, and `scaled` is that multiple.
-/

namespace LanguageClient

namespace Binary64

/-- The magnitude that stands for infinity; the finite ones lie below. -/
def infinity : Nat := 0x7FF <<< 52

def scaled (magnitude : Nat) : Nat :=
  let exponent := magnitude >>> 52
  let fraction := magnitude % (1 <<< 52)
  if exponent = 0 then fraction else ((1 <<< 52) + fraction) <<< (exponent - 1)

/-- How many units of `2 ^ -1074` make one. -/
def unitsPerOne : Nat := 1 <<< 1074

/-- The quotient rounded to a whole number, a half going to the even one. -/
def roundedQuotient (numerator denominator : Nat) : Nat :=
  let quotient := numerator / denominator
  let twice := 2 * (numerator % denominator)
  if denominator < twice ∨ (twice = denominator ∧ quotient % 2 = 1) then quotient + 1 else quotient

/-- The magnitude nearest to a quotient counted in units of `2 ^ -1074`; at or above `infinity`
if there is no finite one. A carry into the next binade is the same sum. -/
def nearest (numerator denominator : Nat) : Nat :=
  let shift := (numerator / denominator).log2 - 52
  (shift <<< 52) + roundedQuotient numerator (denominator <<< shift)

def ofNat (value : Nat) : Nat := nearest (value * unitsPerOne) 1

def product (a b : Nat) : Nat := nearest (scaled a * scaled b) unitsPerOne

def quotient (a b : Nat) : Nat := nearest (scaled a * unitsPerOne) (scaled b)

end Binary64

/-- A finite double: its sign and its magnitude. -/
structure Binary64 where
  negative : Bool
  magnitude : Nat
  finite : magnitude < Binary64.infinity
deriving DecidableEq

def Binary64.zero (negative : Bool) : Binary64 := ⟨negative, 0, by decide⟩

def Binary64.ofMagnitude? (negative : Bool) (magnitude : Nat) : Option Binary64 :=
  if finite : magnitude < infinity then some ⟨negative, magnitude, finite⟩ else none

end LanguageClient
