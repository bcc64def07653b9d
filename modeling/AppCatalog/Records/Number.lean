import AppCatalog.Decimal.Wide
import AppCatalog.Records.Value

/-!
# Numbers as texts

A number that a text shows: digits, perhaps with a sign, a point and an exponent, and with blanks
around. What is written of a number reads back as the same number, or for a floating-point number
as one with the same fifteen digits.
-/

namespace AppCatalog

/-- A number at the start of a text. -/
structure Numeral where
  negative : Bool
  /-- The digits without the point. -/
  digits : Nat
  /-- The power of ten by which they are multiplied. -/
  power : Int
  /-- Whether there is neither a point nor an exponent. -/
  isWhole : Bool
  /-- Whether the text holds nothing else. -/
  isAll : Bool
  deriving Repr, DecidableEq

namespace Numeral

/-- Whether a byte is a blank. -/
def isBlank (byte : UInt8) : Bool := byte = 32 || (9 ≤ byte && byte ≤ 13)

/-- Whether a byte is a decimal digit. -/
def isDigit (byte : UInt8) : Bool := 48 ≤ byte && byte ≤ 57

/-- The number that digits write. -/
def valueOf (digits : Bytes) : Nat :=
  digits.foldl (fun value byte => value * 10 + (byte.toNat - 48)) 0

/-- Takes a sign off the front. -/
def sign : Bytes → Bool × Bytes
  | 45 :: bytes => (true, bytes)
  | 43 :: bytes => (false, bytes)
  | bytes => (false, bytes)

/-- The greatest exponent that matters. -/
def maxPower : Nat := 10000

/-- Reads an exponent. -/
def exponent? (bytes : Bytes) : Option (Int × Bytes) :=
  let (negative, bytes) := sign bytes
  let digits := bytes.takeWhile isDigit
  let value := min maxPower (valueOf digits)
  if digits = [] then none
  else some (if negative then -(value : Int) else value, bytes.dropWhile isDigit)

/-- Takes a point and the digits behind it off the front. -/
def fraction : Bytes → Option Bytes × Bytes
  | 46 :: bytes => (some (bytes.takeWhile isDigit), bytes.dropWhile isDigit)
  | bytes => (none, bytes)

/-- Reads the number at the start of a text of one unit for each byte, if there is one. -/
def ofBytes? (bytes : Bytes) : Option Numeral :=
  let (negative, bytes) := sign (bytes.dropWhile isBlank)
  let front := bytes.takeWhile isDigit
  let (back?, rest) := fraction (bytes.dropWhile isDigit)
  let back := back?.getD []
  let isEmpty (bytes : Bytes) : Bool := (bytes.dropWhile isBlank).isEmpty
  let numeral (power : Int) (isWhole isAll : Bool) : Numeral :=
    { negative, digits := valueOf (front ++ back), power := power - back.length, isWhole, isAll }
  if front = [] ∧ back = [] then none
  else
    match rest with
    | byte :: more =>
      if byte = 101 ∨ byte = 69 then
        match exponent? more with
        | some (power, rest) => some (numeral power false (isEmpty rest))
        | none => some (numeral 0 back?.isNone false)
      else some (numeral 0 back?.isNone (isEmpty rest))
    | [] => some (numeral 0 back?.isNone true)

/-- The whole number at the start of a text, or the one of 64 bits that is closest to it; zero if
there is none. -/
def leadingWhole (bytes : Bytes) : Int :=
  let (negative, bytes) := sign (bytes.dropWhile isBlank)
  let size := valueOf (bytes.takeWhile isDigit)
  if negative then max Value.minInteger (-size) else min Value.maxInteger size

/-- The nearest floating-point number. -/
def toDouble (numeral : Numeral) : Double :=
  Wide.read numeral.negative numeral.digits numeral.power

/-- The whole number, if the numeral is one and the number has at most 64 bits. -/
def whole? (numeral : Numeral) : Option Int :=
  let value : Int := if numeral.negative then -numeral.digits else numeral.digits
  if numeral.isWhole ∧ Value.minInteger ≤ value ∧ value ≤ Value.maxInteger then some value
  else none

/-- The value: a whole number if it is one. -/
def value (numeral : Numeral) : Value :=
  match numeral.whole? with
  | some value => .integer value
  | none => .ofDouble numeral.toDouble

end Numeral

/-! ## Writing -/

namespace Double

/-- The number of digits that are written of a floating-point number. -/
def shownDigits : Nat := 15

/-- The first digits of a positive number as a whole number, and the power of ten of the first of
them. -/
def leadingDigits (significand : Nat) (exponent : Int) : Nat × Int :=
  let (value, last) := Wide.digitsOf significand exponent
  let count := digitCount value
  let cut := Nat.pow 10 (count - shownDigits)
  let digits := (2 * value + cut) / (2 * cut)
  let power := last + count - 1
  if digits < Nat.pow 10 shownDigits then (digits, power) else (digits / 10, power + 1)

/-- Digits with a point behind some of them, without zeros at the end but for one behind the
point. -/
def pointed (digits : List Char) (places : Nat) : List Char :=
  let front := digits.take places
  let back := ((digits.drop places).reverse.dropWhile (· = '0')).reverse
  front ++ '.' :: if back = [] then ['0'] else back

/-- Digits of which the first stands before the point, and the power of ten of that one. -/
def scientific (digits : List Char) (power : Int) : List Char :=
  let size := power.natAbs
  let exponent := if size < 10 then '0' :: Nat.toDigits 10 size else Nat.toDigits 10 size
  pointed digits 1 ++ 'e' :: (if power < 0 then '-' else '+') :: exponent

/-- The text of a finite number: fifteen digits, with an exponent if the number is very great or
very small. -/
def shown (number : Double) : String :=
  match number with
  | nan => ""
  | infinite negative => if negative then "-Inf" else "Inf"
  | finite negative significand exponent =>
    let body : List Char :=
      if significand = 0 then ['0', '.', '0']
      else
        let (value, power) := leadingDigits significand exponent
        let digits := Nat.toDigits 10 value
        if power < -4 ∨ (shownDigits : Int) ≤ power then
          scientific digits power
        else if power < 0 then
          '0' :: '.' :: ((List.replicate (-power - 1).toNat '0' ++ digits).reverse.dropWhile
            (· = '0')).reverse
        else pointed (digits ++ ['0']) (power.toNat + 1)
    String.ofList (if negative && significand ≠ 0 then '-' :: body else body)

/-- The text of a number that reads back as the same number. -/
def written (number : Double) : String :=
  match number with
  | finite negative significand exponent =>
    let short := number.shown
    let isExact := (Numeral.ofBytes? (Utf8.encode short)).any (·.toDouble = number)
    if isExact ∨ significand = 0 then short
    else
      let (value, last) := Wide.digitsOf significand exponent
      let body := scientific (Nat.toDigits 10 value) (last + digitCount value - 1)
      String.ofList (if negative then '-' :: body else body)
  | infinite negative => if negative then "-9.0e+999" else "9.0e+999"
  | nan => ""

end Double

namespace Value

/-- The text of a number. -/
def shown : Value → String
  | integer value => toString value
  | real bits => (Double.ofBits bits).shown
  | _ => ""

end Value
end AppCatalog
