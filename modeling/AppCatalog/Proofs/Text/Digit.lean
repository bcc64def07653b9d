import Mathlib.Tactic.Lemma
import AppCatalog.Text.Digit

/-!
# Reading decimal digits

A whole number in decimal is read as that number.

* **A digit** (`Text.digit?_of_isDigit`) has its value.
* **The digits of a number** (`Text.ofDigits_toDigits`) stand for it.
-/

namespace AppCatalog.Text

/-- The value of a decimal digit. -/
def decimalValue (c : Char) : Nat := c.toNat - 0x30

/-- A decimal digit has its value. -/
lemma digit?_of_isDigit {c : Char} (isDigit : c.isDigit = true) :
    digit? 10 c.toNat = some (decimalValue c) := by
  have bounds : 0x30 ≤ c.toNat ∧ c.toNat ≤ 0x39 := Char.isDigit_iff_toNat.1 isDigit
  unfold digit? decimalValue
  dsimp only
  rw [if_pos bounds, if_pos (by omega)]

/-- The decimal digits of a number stand for it. -/
lemma ofDigits_toDigits (n : Nat) : ofDigits 10 ((Nat.toDigits 10 n).map decimalValue) = n := by
  have step_eq : ∀ (chars : List Char) (start : Nat),
      (chars.map decimalValue).foldl (fun value digit => value * 10 + digit) start =
        Nat.ofDigitChars 10 chars start := by
    intro chars
    induction chars with
    | nil => exact fun _ => rfl
    | cons c chars ih =>
        intro start
        rw [List.map_cons, List.foldl_cons, ih, Nat.ofDigitChars_cons, Nat.mul_comm start]
        rfl
  unfold ofDigits
  rw [step_eq]
  exact Nat.ofDigitChars_ten_toDigits

end AppCatalog.Text
