/-!
# Double precision

Binary floating-point numbers of 64 bits as exact values: a significand below 2^53 times a power
of two. Rounding a positive ratio goes to the nearest such number, a tie to the even significand,
and a ratio too large for any of them to infinity.
-/

namespace AppCatalog

/-- A binary floating-point number of 64 bits. -/
inductive Double where
  /-- The number `significand * 2 ^ exponent`, with its sign, which zero has as well. -/
  | finite (negative : Bool) (significand : Nat) (exponent : Int)
  | infinite (negative : Bool)
  | nan
  deriving Repr, DecidableEq

namespace Double

/-- The least exponent, that of the smallest numbers and of zero. -/
def minExponent : Int := -1074

/-- The greatest exponent of a finite number. -/
def maxExponent : Int := 971

/-- The least significand of full precision. -/
def leastFull : Nat := 0x10000000000000

/-- The number of significands. -/
def significands : Nat := 2 * leastFull

/-- The quotient rounded to the nearest natural number, a tie to the even one. -/
def roundQuotient (num den : Nat) : Nat :=
  let quotient := num / den
  let twice := 2 * (num % den)
  if den < twice ∨ (twice = den ∧ quotient % 2 = 1) then quotient + 1 else quotient

/-- A ratio divided by `2 ^ exponent`, as a ratio. -/
def scaled (num den : Nat) (exponent : Int) : Nat × Nat :=
  (num * Nat.pow 2 (-exponent).toNat, den * Nat.pow 2 exponent.toNat)

/-- The exponent at which a positive ratio has a quotient of 53 bits, or the least exponent for
smaller ratios. -/
def exponentFor (num den : Nat) : Int :=
  let guess := max minExponent ((num.log2 : Int) - den.log2 - 53)
  let (n, d) := scaled num den guess
  if n / d < significands then guess else guess + 1

/-- The number nearest to a ratio of natural numbers with a positive denominator. -/
def ofRatio (negative : Bool) (num den : Nat) : Double :=
  if num = 0 then
    .finite negative 0 minExponent
  else
    let exponent := exponentFor num den
    let (n, d) := scaled num den exponent
    let significand := roundQuotient n d
    let (significand, exponent) :=
      if significand < significands then (significand, exponent) else (leastFull, exponent + 1)
    if exponent ≤ maxExponent then .finite negative significand exponent else .infinite negative

/-- The number of decimal digits of a natural number; none for zero. -/
def digitCount (n : Nat) : Nat :=
  if n = 0 then 0 else (Nat.toDigits 10 n).length

/-- The number nearest to `coefficient * 10 ^ power`. From 10^309 on all is infinite and below
10^-330 all is zero, so no power of ten is ever larger than the digits written. -/
def ofDecimal (negative : Bool) (coefficient : Nat) (power : Int) : Double :=
  let magnitude := digitCount coefficient + power
  if coefficient = 0 ∨ magnitude < -330 then
    .finite negative 0 minExponent
  else if 310 < magnitude then
    .infinite negative
  else
    ofRatio negative (coefficient * Nat.pow 10 power.toNat) (Nat.pow 10 (-power).toNat)

end Double
end AppCatalog
