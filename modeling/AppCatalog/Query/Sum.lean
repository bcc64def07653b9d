import AppCatalog.Database.Error
import AppCatalog.Query.Operator

/-!
# Sums

Sums of values, into which values come and from which they go again. Whole numbers are added as
they are, as long as the sum has 64 bits. With floating-point numbers goes what rounding lost, so
that it can be made good in the end.
-/

namespace AppCatalog

/-- A sum of floating-point numbers, and what was lost by rounding it so far. -/
structure Total where
  value : Double := .ofInt 0
  lost : Double := .ofInt 0

namespace Total

/-- A sum with one more number. -/
def add (total : Total) (number : Double) : Total :=
  let value := total.value.add number
  let size (n : Double) : Double := if n.isNegative then n.negate else n
  let isGreater := (size total.value).compareTo (size number) = .gt
  let lost :=
    if isGreater then (total.value.add value.negate).add number
    else (number.add value.negate).add total.value
  { value, lost := total.lost.add lost }

/-- The least whole number that is added in two parts. -/
def wide : Int := 0x10000000000000

/-- A sum with one more whole number. -/
def addInt (total : Total) (number : Int) : Total :=
  if number ≤ -wide ∨ wide ≤ number then
    let low := number.tmod 0x4000
    (total.add (.ofInt (number - low))).add (.ofInt low)
  else total.add (.ofInt number)

/-- A sum from which a whole number goes. The opposite of the least one has no 64 bits, so that it
goes in two parts. -/
def removeInt (total : Total) (number : Int) : Total :=
  if number = Value.minInteger then (total.addInt Value.maxInteger).addInt 1
  else total.addInt (-number)

/-- A sum that starts with a whole number. -/
def ofInt (number : Int) : Total :=
  if number ≤ -wide ∨ wide ≤ number then
    let low := number.tmod 0x4000
    { value := .ofInt (number - low), lost := .ofInt low }
  else { value := .ofInt number }

/-- The number that a sum comes to. -/
def number (total : Total) : Double :=
  match total.lost with
  | .finite .. => total.value.add total.lost
  | _ => total.value

end Total

/-- A sum of values. -/
structure Sum where
  /-- How many values are in it. -/
  count : Nat := 0
  whole : Int := 0
  /-- The sum of floating-point numbers, once there are such. -/
  total? : Option Total := none
  /-- Whether whole numbers became too great for 64 bits. -/
  isOverflown : Bool := false

namespace Sum

/-- A sum with one more value. A text counts as a whole number only if it is one. -/
def add (encoding : Encoding) (sum : Sum) (value : Value) : Sum :=
  if value.isNull then sum
  else
    let sum := { sum with count := sum.count + 1 }
    match sum.total?, Affinity.numeric.apply encoding value with
    | none, .integer n =>
      if Value.fits (sum.whole + n) then { sum with whole := sum.whole + n }
      else
        { sum with total? := some ((Total.ofInt sum.whole).addInt n), isOverflown := true }
    | none, _ =>
      { sum with total? := some ((Total.ofInt sum.whole).add (value.toDouble encoding)) }
    | some total, .integer n => { sum with total? := some (total.addInt n) }
    | some total, _ =>
      { sum with total? := some (total.add (value.toDouble encoding)), isOverflown := false }

/-- A sum from which a value goes that is in it. -/
def remove (encoding : Encoding) (sum : Sum) (value : Value) : Sum :=
  if value.isNull then sum
  else
    let sum := { sum with count := sum.count - 1 }
    match sum.total?, Affinity.numeric.apply encoding value with
    | none, number =>
      let whole := sum.whole - number.toInteger encoding
      { sum with whole := Block.signed 64 (Block.unsigned 64 whole) }
    | some total, .integer n => { sum with total? := some (total.removeInt n) }
    | some total, _ =>
      { sum with total? := some (total.add (value.toDouble encoding).negate) }

/-- The number that a sum comes to. -/
def number (sum : Sum) : Double :=
  match sum.total? with
  | none => .ofInt sum.whole
  | some total => total.number

/-- The sum as a value; there is none of nothing. -/
def value (sum : Sum) : Except SqlError Value :=
  if sum.count = 0 then .ok .null
  else
    match sum.total? with
    | none => .ok (.integer sum.whole)
    | some total =>
      if sum.isOverflown then .error (.senseless "integer overflow")
      else .ok (.ofDouble total.number)

/-- The mean as a value; there is none of nothing. -/
def mean (sum : Sum) : Value :=
  if sum.count = 0 then .null else .ofDouble (sum.number.divide (.ofInt sum.count))

/-- What a function of sums makes of one. -/
def called? (sum : Sum) (name : String) : Option (Except SqlError Value) :=
  match name with
  | "sum" => some sum.value
  | "total" => some (.ok (.ofDouble sum.number))
  | "avg" => some (.ok sum.mean)
  | _ => none

end Sum
end AppCatalog
