/-!
# Digits

The value of a digit and the digit of a value, by character code, so that bytes and characters
share them.
-/

namespace AppCatalog.Text

/-- The value that the character code stands for as a digit of the base, which is at most
sixteen; letters count in either case. -/
def digit? (base code : Nat) : Option Nat :=
  let value :=
    if 0x30 ≤ code ∧ code ≤ 0x39 then code - 0x30
    else if 0x41 ≤ code ∧ code ≤ 0x46 then code - 0x37
    else if 0x61 ≤ code ∧ code ≤ 0x66 then code - 0x57
    else base
  if value < base then some value else none

/-- The number that a list of digit values, most significant first, stands for. -/
def ofDigits (base : Nat) (digits : List Nat) : Nat :=
  digits.foldl (fun value digit => value * base + digit) 0

/-- The code of a digit below sixteen, with small letters from ten on. -/
def lowerDigit (value : Nat) : Nat :=
  if value < 10 then 0x30 + value else 0x57 + value

/-- The code of a digit below sixteen, with capital letters from ten on. -/
def upperDigit (value : Nat) : Nat :=
  if value < 10 then 0x30 + value else 0x37 + value

end AppCatalog.Text
