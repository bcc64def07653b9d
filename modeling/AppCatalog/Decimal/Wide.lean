import AppCatalog.Decimal.Bits

/-!
# Numbers with 64 bits of significand

Between decimals and floating-point numbers stands a form with eleven more bits of significand and
an exponent without limits. Each multiplication by a power of ten is rounded to that form, so the
digits that are written of a number, and the number that is read from digits, are now and then the
second nearest ones.
-/

namespace AppCatalog

/-- The number `significand * 2 ^ exponent` that is not negative, with at most 64 bits of
significand. -/
structure Wide where
  significand : Nat
  exponent : Int
  deriving Repr, DecidableEq

namespace Wide

/-- The number of bits of a significand. -/
def precision : Nat := 64

/-- The number nearest to `count * 2 ^ exponent`, a tie to the even significand. -/
def rounded (count : Nat) (exponent : Int) : Wide :=
  let excess := count.log2 + 1 - precision
  if excess = 0 then ⟨count, exponent⟩
  else ⟨Double.roundQuotient count (Nat.pow 2 excess), exponent + excess⟩

/-- The number nearest to a positive ratio. -/
def ofRatio (num den : Nat) : Wide :=
  let guess : Int := (num.log2 : Int) - den.log2 - precision + 1
  let (n, d) := Double.scaled num den guess
  let exponent := if n / d < Nat.pow 2 (precision - 1) then guess - 1 else guess
  let (n, d) := Double.scaled num den exponent
  ⟨Double.roundQuotient n d, exponent⟩

/-- The number nearest to a power of ten. -/
def ofPower (power : Int) : Wide := ofRatio (Nat.pow 10 power.toNat) (Nat.pow 10 (-power).toNat)

/-- The number nearest to the product. -/
def multiply (a b : Wide) : Wide :=
  rounded (a.significand * b.significand) (a.exponent + b.exponent)

/-- The number times a power of ten that is known by its nearest number. -/
def shifted (a : Wide) (power : Int) : Wide := a.multiply (ofPower power)

/-- Whether the number is at least `10 ^ power`. -/
def isAtLeast (a : Wide) (power : Int) : Bool :=
  Nat.pow 10 power.toNat * Nat.pow 2 (-a.exponent).toNat ≤
    a.significand * Nat.pow 2 a.exponent.toNat * Nat.pow 10 (-power).toNat

/-- The whole number towards zero. -/
def floor (a : Wide) : Nat :=
  a.significand * Nat.pow 2 a.exponent.toNat / Nat.pow 2 (-a.exponent).toNat

/-- The nearest floating-point number. -/
def toDouble (negative : Bool) (a : Wide) : Double :=
  .ofRatio negative (a.significand * Nat.pow 2 a.exponent.toNat) (Nat.pow 2 (-a.exponent).toNat)

/-! ## Digits -/

/-- Divides by powers of ten until nineteen digits are left before the point. The answer also gives
the power of ten that was divided by. -/
def lowered : (rounds : Nat) → Wide → (power : Int) → Wide × Int
  | 0, a, power => (a, power)
  | rounds + 1, a, power =>
    if a.isAtLeast 119 then lowered rounds (a.shifted (-100)) (power + 100)
    else if a.isAtLeast 29 then lowered rounds (a.shifted (-10)) (power + 10)
    else if a.isAtLeast 19 then lowered rounds (a.shifted (-1)) (power + 1)
    else (a, power)

/-- Multiplies by powers of ten until eighteen digits stand before the point. The answer also gives
the power of ten that is to be multiplied by. -/
def raised : (rounds : Nat) → Wide → (power : Int) → Wide × Int
  | 0, a, power => (a, power)
  | rounds + 1, a, power =>
    if !a.isAtLeast (-97) then raised rounds (a.shifted 100) (power - 100)
    else if !a.isAtLeast 7 then raised rounds (a.shifted 10) (power - 10)
    else if !a.isAtLeast 17 then raised rounds (a.shifted 1) (power - 1)
    else (a, power)

/-- More multiplications than any number needs. -/
def maxShifts : Nat := 30

/-- All digits of a positive floating-point number that count, as a whole number and the power of
ten of the last of them. -/
def digitsOf (significand : Nat) (exponent : Int) : Nat × Int :=
  let number : Wide := ⟨significand, exponent⟩
  let (number, power) :=
    if number.isAtLeast 19 then lowered maxShifts number 0 else raised maxShifts number 0
  (number.floor, power)

/-! ## Reading digits -/

/-- A number times a power of ten, in steps of a hundred, ten and one. -/
def scaleBy (a : Wide) (power : Int) : Wide :=
  let size := power.natAbs
  let sign : Int := if power < 0 then -1 else 1
  let times (count : Nat) (step : Int) (a : Wide) : Wide :=
    (List.range count).foldl (fun a _ => a.shifted (sign * step)) a
  times (size % 10) 1 (times (size % 100 / 10) 10 (times (size / 100) 100 a))

/-- The least number of digits' worth behind which no more digits are looked at. -/
def maxDigits : Nat := 1844674407370955160

/-- Digits without those behind the last that is looked at, and the power of ten of the last. -/
def trimmed : (rounds digits : Nat) → (power : Int) → Nat × Int
  | 0, digits, power => (digits, power)
  | rounds + 1, digits, power =>
    if maxDigits ≤ digits / 10 then trimmed rounds (digits / 10) (power + 1) else (digits, power)

/-- The greatest number that takes another digit without more than 64 bits. -/
def maxTenth : Nat := 1844674407370955161

/-- The same number with a power of ten as close to zero as there is room for. -/
def settled : (rounds digits : Nat) → (power : Int) → Nat × Int
  | 0, digits, power => (digits, power)
  | rounds + 1, digits, power =>
    if 0 < power ∧ digits < maxTenth then settled rounds (digits * 10) (power - 1)
    else if power < 0 ∧ digits % 10 = 0 then settled rounds (digits / 10) (power + 1)
    else (digits, power)

/-- The floating-point number that is read from digits and a power of ten. -/
def read (negative : Bool) (digits : Nat) (power : Int) : Double :=
  if digits = 0 then .finite negative 0 Double.minExponent
  else
    let (digits, power) := trimmed (Double.digitCount digits) digits power
    let (digits, power) := settled 20 digits power
    if 400 < power then .infinite negative
    else if power < -400 then .finite negative 0 Double.minExponent
    else (scaleBy ⟨digits, 0⟩ power).toDouble negative

end Wide
end AppCatalog
