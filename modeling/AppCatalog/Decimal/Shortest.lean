import AppCatalog.Decimal.Double

/-!
# Shortest decimals

The text of a floating-point number with the fewest digits that read back as the same number,
and of those the nearest to it. For one digit, two digits and so on, the two neighbours of the
number on that decimal grid are tested in exact arithmetic: the first grid with a hit wins.
-/

namespace AppCatalog
namespace Double

/-- The reals that round to a positive number: between `low / den` and `high / den` around
`mid / den`, the ends included if `closed`. -/
structure Interval where
  low : Nat
  mid : Nat
  high : Nat
  den : Nat
  closed : Bool

/-- The interval of a positive number. Below a power of two the grid is twice as fine, except
at the least exponent. -/
def interval (significand : Nat) (exponent : Int) : Interval :=
  let up := Nat.pow 2 exponent.toNat
  let below := if significand = leastFull ∧ minExponent < exponent then 1 else 2
  { low := (4 * significand - below) * up
    mid := 4 * significand * up
    high := (4 * significand + 2) * up
    den := 4 * Nat.pow 2 (-exponent).toNat
    closed := significand % 2 = 0 }

/-- Whether the ratio lies in the interval. -/
def Interval.has (i : Interval) (num den : Nat) : Bool :=
  if i.closed then i.low * den ≤ num * i.den && num * i.den ≤ i.high * den
  else i.low * den < num * i.den && num * i.den < i.high * den

/-- The point `coefficient * 10 ^ power` as a ratio. -/
def gridPoint (coefficient : Nat) (power : Int) : Nat × Nat :=
  (coefficient * Nat.pow 10 power.toNat, Nat.pow 10 (-power).toNat)

/-- The multiple of `10 ^ power` in the interval that is nearest to its middle, a tie upwards;
only the two neighbours of the middle are tried. -/
def Interval.nearest? (i : Interval) (power : Int) : Option Nat :=
  let (stepNum, stepDen) := gridPoint 1 power
  let below := i.mid * stepDen / (i.den * stepNum)
  let hit (coefficient : Nat) : Bool :=
    let (num, den) := gridPoint coefficient power
    i.has num den
  match hit below, hit (below + 1) with
  | true, true =>
    if 2 * i.mid * stepDen < (2 * below + 1) * (i.den * stepNum) then some below
    else some (below + 1)
  | true, false => some below
  | false, true => some (below + 1)
  | false, false => none

/-- The least power of ten above the middle of the interval, searched among `tries` powers
from `power` on. -/
def Interval.ceilingPower (i : Interval) : (tries : Nat) → (power : Int) → Int
  | 0, power => power
  | tries + 1, power =>
    let (num, den) := gridPoint 1 power
    if i.mid * den < num * i.den then power else i.ceilingPower tries (power + 1)

/-- The first grid with a hit, from `digits` digits on, as a coefficient and a power of ten. A
hit that carries into a new digit loses the zero that ends it. -/
def Interval.firstHit (i : Interval) (top : Int) : (tries digits : Nat) → Nat × Int
  | 0, digits => (0, top - digits)
  | tries + 1, digits =>
    match i.nearest? (top - digits) with
    | some coefficient =>
      if coefficient % 10 = 0 then (coefficient / 10, top - digits + 1)
      else (coefficient, top - digits)
    | none => i.firstHit top tries (digits + 1)

/-- The shortest decimal of a positive number, as a coefficient and a power of ten. Seventeen
digits always suffice. -/
def shortest (significand : Nat) (exponent : Int) : Nat × Int :=
  let i := interval significand exponent
  let estimate := (((significand.log2 : Int) + exponent) * 30103) / 100000
  let top := i.ceilingPower 4 (estimate - 1)
  i.firstHit top 17 1

/-- Decimal digits of a positional number with a point: `coefficient * 10 ^ power`, at least one
digit on either side of the point. -/
def positional (coefficient : Nat) (power : Int) : List Char :=
  let digits := Nat.toDigits 10 coefficient
  if 0 ≤ power then
    digits ++ List.replicate power.toNat '0' ++ ['.', '0']
  else
    let places := (-power).toNat
    let padded := List.replicate (places + 1 - digits.length) '0' ++ digits
    padded.take (padded.length - places) ++ '.' :: padded.drop (padded.length - places)

/-- The text of a number: never an exponent, always a point in a finite number. -/
def text : Double → String
  | nan => "NaN"
  | infinite negative => if negative then "-inf" else "inf"
  | finite negative significand exponent =>
    let sign := if negative then ['-'] else []
    if significand = 0 then
      String.ofList (sign ++ ['0', '.', '0'])
    else
      let (coefficient, power) := shortest significand exponent
      String.ofList (sign ++ positional coefficient power)

end Double
end AppCatalog
