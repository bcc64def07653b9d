import AppCatalog.Toml.Lexeme
import AppCatalog.Toml.Value

/-!
# TOML numbers, dates and times

The values that start with a sign or a digit. Digits may be separated by single underscores.
Integers are those of 64 bits, in decimal with an optional sign or in another base with a
marker; a number with a fraction or an exponent is the nearest floating-point number. Dates are
those of the calendar and times those of a day, a leap second included.
-/

namespace AppCatalog.Toml

/-! ## Digits -/

/-- One digit of the base. -/
def digit (base : Nat) : Reader Nat
  | c :: s => (Text.digit? base c.toNat).map fun value => (value, s)
  | [] => none

/-- A further digit, which an underscore may precede. -/
def furtherDigit (base : Nat) : Reader Nat
  | '_' :: s => digit base s
  | s => digit base s

/-- One or more digits of the base. -/
def digits (base : Nat) (s : List Char) : Option (List Nat × List Char) := do
  let (first, rest) ← digit base s
  let (more, rest) := Text.Step.many (furtherDigit base) rest
  return (first :: more, rest)

/-- The digits before the point of a decimal number: no zero in front of others. -/
def leadingDigits : Reader (List Nat)
  | '0' :: s => some ([0], s)
  | s => digits 10 s

/-- An optional sign; the answer says whether it is a minus. -/
def sign : List Char → Bool × List Char
  | '+' :: s => (false, s)
  | '-' :: s => (true, s)
  | s => (false, s)

/-- A number with its sign. -/
def signed (negative : Bool) (n : Nat) : Int :=
  if negative then -(n : Int) else n

/-! ## Numbers -/

/-- An integer, if 64 bits hold it. -/
def integer? (n : Int) : Option Value :=
  if -0x8000000000000000 ≤ n ∧ n < 0x8000000000000000 then some (.integer n) else none

/-- A floating-point number, unless it is too large; only numbers without a minus are refused
for that. -/
def float? (x : Double) : Option Value :=
  if x = .infinite false then none else some (.float x)

/-- From this number on the further digits of an exponent do not count. -/
def exponentLimit : Nat := 0x10000

/-- The exponent that digits stand for, as far as they count. No number of a sensible length is
anything but zero or infinite at such a limit. -/
def exponentOf (ds : List Nat) : Nat :=
  ds.foldl (fun n d => if n < exponentLimit then n * 10 + d else n) 0

/-- An exponent, after its letter. -/
def exponent (s : List Char) : Option (Int × List Char) := do
  let (negative, rest) := sign s
  let (ds, rest) ← digits 10 rest
  return (signed negative (exponentOf ds), rest)

/-- An optional exponent with its letter. -/
def optionalExponent : Reader Int
  | 'e' :: s => exponent s
  | 'E' :: s => exponent s
  | s => some (0, s)

/-- A decimal number, after its sign. -/
def decimal (negative : Bool) (s : List Char) : Option (Value × List Char) := do
  let (whole, rest) ← leadingDigits s
  let isFloat := match rest with
    | '.' :: _ => true
    | 'e' :: _ => true
    | 'E' :: _ => true
    | _ => false
  if isFloat then
    let (fraction, rest) ← match rest with
      | '.' :: rest => digits 10 rest
      | rest => some ([], rest)
    let (power, rest) ← optionalExponent rest
    let coefficient := Text.ofDigits 10 (whole ++ fraction)
    let value ← float? (.ofDecimal negative coefficient (power - fraction.length))
    return (value, rest)
  else
    let value ← integer? (signed negative (Text.ofDigits 10 whole))
    return (value, rest)

/-- Digits of another base, after their marker. -/
def based (base : Nat) (s : List Char) : Option (Value × List Char) := do
  let (ds, rest) ← digits base s
  let value ← integer? (Text.ofDigits base ds)
  return (value, rest)

/-- A number in any notation. -/
def number : Reader Value
  | '0' :: 'x' :: s => based 16 s
  | '0' :: 'o' :: s => based 8 s
  | '0' :: 'b' :: s => based 2 s
  | s =>
    let (negative, rest) := sign s
    match rest with
    | 'i' :: 'n' :: 'f' :: rest => some (.float (.infinite negative), rest)
    | 'n' :: 'a' :: 'n' :: rest => some (.float .nan, rest)
    | rest => decimal negative rest

/-! ## Dates and times -/

/-- A number of exactly two digits between two bounds. -/
def twoDigits (low high : Nat) : Reader Nat
  | a :: b :: s => do
    let tens ← Text.digit? 10 a.toNat
    let ones ← Text.digit? 10 b.toNat
    let n := tens * 10 + ones
    if low ≤ n ∧ n ≤ high then some (n, s) else none
  | _ => none

/-- The given character. -/
def expect (c : Char) : List Char → Option (List Char)
  | d :: s => if d = c then some s else none
  | [] => none

/-- The number of days of a month. -/
def daysIn (year month : Nat) : Nat :=
  if month = 2 then
    if year % 4 = 0 ∧ (year % 100 ≠ 0 ∨ year % 400 = 0) then 29 else 28
  else if month = 4 ∨ month = 6 ∨ month = 9 ∨ month = 11 then 30
  else 31

/-- Drops a date of the calendar: four digits, two and two, with hyphens. -/
def date (s : List Char) : Option (List Char) := do
  let (century, s) ← twoDigits 0 99 s
  let (year, s) ← twoDigits 0 99 s
  let (month, s) ← twoDigits 1 12 (← expect '-' s)
  let (day, s) ← twoDigits 1 31 (← expect '-' s)
  if day ≤ daysIn (century * 100 + year) month then some s else none

/-- Drops a time of day, with an optional fraction of a second. -/
def time (s : List Char) : Option (List Char) := do
  let (_, s) ← twoDigits 0 23 s
  let (_, s) ← twoDigits 0 59 (← expect ':' s)
  let (_, s) ← twoDigits 0 60 (← expect ':' s)
  match s with
  | '.' :: c :: rest => if c.isDigit then some (rest.dropWhile Char.isDigit) else some s
  | _ => some s

/-- Drops hours and minutes of an offset, after its sign. -/
def offsetBody (s : List Char) : Option (List Char) := do
  let (_, s) ← twoDigits 0 23 s
  let (_, s) ← twoDigits 0 59 (← expect ':' s)
  return s

/-- Drops an optional offset from universal time. -/
def offset (s : List Char) : List Char :=
  match s with
  | 'Z' :: rest => rest
  | 'z' :: rest => rest
  | '+' :: rest => (offsetBody rest).getD s
  | '-' :: rest => (offsetBody rest).getD s
  | _ => s

/-- Drops an optional time after a date, with its delimiter and its offset. -/
def timeAfterDate (s : List Char) : List Char :=
  match s with
  | c :: rest =>
    if c = 'T' ∨ c = 't' ∨ c = ' ' then
      match time rest with
      | some rest => offset rest
      | none => s
    else s
  | [] => []

/-- A date, a time, or both. -/
def moment (s : List Char) : Option (Value × List Char) :=
  match date s with
  | some rest => some (.dateTime, timeAfterDate rest)
  | none => (time s).map fun rest => (.dateTime, rest)

end AppCatalog.Toml
