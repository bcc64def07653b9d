import AppCatalog.Decimal.Double

/-!
# The bits of floating-point numbers

A floating-point number of 64 bits as its bits: a sign, eleven bits of exponent and 52 of
significand, whose highest bit is left out. Numbers are also compared with each other and with
whole numbers, exactly.
-/

namespace AppCatalog
namespace Double

/-- The number that bits stand for. -/
def ofBits (bits : UInt64) : Double :=
  let n := bits.toNat
  let negative := 0x8000000000000000 ≤ n
  let field := n / leastFull % 0x800
  let fraction := n % leastFull
  if field = 0x7FF then if fraction = 0 then .infinite negative else .nan
  else if field = 0 then .finite negative fraction minExponent
  else .finite negative (leastFull + fraction) (minExponent + (field - 1))

/-- The bits of a number. -/
def toBits : Double → UInt64
  | nan => 0x7FF8000000000000
  | infinite negative => if negative then 0xFFF0000000000000 else 0x7FF0000000000000
  | finite negative significand exponent =>
    let sign : Nat := if negative then 0x8000000000000000 else 0
    let field : Nat := if significand < leastFull then 0 else (exponent - minExponent).toNat + 1
    (sign + field * leastFull + significand % leastFull).toUInt64

/-- The number as a ratio, if it is finite. -/
def ratio? : Double → Option (Int × Nat)
  | finite negative significand exponent =>
    let magnitude : Int := significand * Nat.pow 2 exponent.toNat
    some (if negative then -magnitude else magnitude, Nat.pow 2 (-exponent).toNat)
  | _ => none

/-- The number nearest to a ratio with a positive denominator. -/
def ofFraction (num : Int) (den : Nat) : Double := ofRatio (num < 0) num.natAbs den

/-- The number nearest to a whole number. -/
def ofInt (n : Int) : Double := ofFraction n 1

/-- Compares ratios with positive denominators. -/
def compareRatios (a b : Int × Nat) : Ordering := compare (a.1 * b.2) (b.1 * a.2)

/-- Whether the number is below zero. -/
def isNegative : Double → Bool
  | finite negative significand _ => negative && significand ≠ 0
  | infinite negative => negative
  | nan => false

/-- Compares a number with a ratio; what is no number comes first. -/
def compareRatio (a : Double) (b : Int × Nat) : Ordering :=
  match a with
  | nan => .lt
  | infinite negative => if negative then .lt else .gt
  | a => compareRatios (a.ratio?.getD (0, 1)) b

/-- Compares two numbers. -/
def compareTo (a b : Double) : Ordering :=
  match b with
  | nan => if a = .nan then .eq else .gt
  | infinite negative => if a = b then .eq else if negative then .gt else .lt
  | b => a.compareRatio (b.ratio?.getD (0, 1))

/-- The whole number towards zero, between the least and the greatest of 64 bits. -/
def truncate : Double → Int
  | nan => 0
  | infinite negative => if negative then -0x8000000000000000 else 0x7FFFFFFFFFFFFFFF
  | finite negative significand exponent =>
    let magnitude : Int :=
      significand * Nat.pow 2 exponent.toNat / Nat.pow 2 (-exponent).toNat
    max (-0x8000000000000000) (min 0x7FFFFFFFFFFFFFFF (if negative then -magnitude else magnitude))

/-- The whole number that the number is, if it is one. -/
def whole? (a : Double) : Option Int :=
  if a.compareRatio (a.truncate, 1) = .eq then some a.truncate else none

end Double
end AppCatalog
