import LanguageClient.Number.Binary64
import LanguageClient.Number.Decimal

set_option autoImplicit false

/-!
The decimal with the fewest digits that rounds to a given double, and the nearest to it of those.
The decimals that round to a double form an interval, which contains a point of a decimal grid
only if it contains one of the two grid neighbours of the double.
-/

namespace LanguageClient

namespace Binary64

/-- The power of ten of the first digit of a positive number. Of its power of two a little less than
`log10 2` is taken, and up to some hundred thousand bits that is at most one too low. -/
def firstPower (value : Nat) : Nat :=
  let guess := value.log2 * 1233 / 4096
  if Nat.pow 10 (guess + 1) ≤ value then guess + 1 else guess

def leadingPower (numerator denominator : Nat) : Int :=
  if denominator ≤ numerator then firstPower (numerator / denominator)
  else
    let power := firstPower (denominator / numerator)
    if numerator * Nat.pow 10 power = denominator then -power else -(power + 1)

/-- A neighbour of a nonzero double on the grid of multiples of `10 ^ exponent`, if one of them
rounds to the double; the nearer if both do, the even one if they are equally near. -/
def onGrid (magnitude : Nat) (exponent : Int) : Option Decimal :=
  let numeratorScale := if exponent < 0 then Nat.pow 10 exponent.natAbs else 1
  let spacing := unitsPerOne * (if exponent < 0 then 1 else Nat.pow 10 exponent.natAbs)
  let target := scaled magnitude * numeratorScale
  let lowest := (scaled (magnitude - 1) + scaled magnitude) * numeratorScale
  let highest := (scaled magnitude + scaled (magnitude + 1)) * numeratorScale
  let rounds (point : Nat) : Bool :=
    let twice := 2 * point * spacing
    if magnitude % 2 = 0 then lowest ≤ twice && twice ≤ highest
    else lowest < twice && twice < highest
  let below := target / spacing
  let point :=
    match rounds below, rounds (below + 1) with
    | true, true => some (roundedQuotient target spacing)
    | true, false => some below
    | false, true => some (below + 1)
    | false, false => none
  point.map fun significand => ⟨significand, exponent⟩

/-- Seventeen digits always suffice. -/
def shortest (magnitude : Nat) : Decimal :=
  let leading := leadingPower (scaled magnitude) unitsPerOne
  let found := (List.range 17).findSome? fun further : Nat => onGrid magnitude (leading - further)
  Decimal.strip 17 (found.getD ⟨0, 0⟩)

def chars (layout : Decimal.Layout) (number : Binary64) : List Char :=
  let unsigned :=
    if number.magnitude = 0 then ['0', '.', '0'] else (shortest number.magnitude).chars layout
  if number.negative then '-' :: unsigned else unsigned

end Binary64

end LanguageClient
