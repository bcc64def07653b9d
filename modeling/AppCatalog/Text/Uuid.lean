import AppCatalog.Text.Digit

/-!
# Random identifiers

The text of a version 4 UUID: 122 free bits as hexadecimal digits, with the digit of the version
and two bits of the variant between them, in five groups.
-/

namespace AppCatalog.Uuid

/-- The lowest hexadecimal digits of a number, most significant first. -/
def hexDigits : (width value : Nat) → List Char
  | 0, _ => []
  | width + 1, value =>
    hexDigits width (value / 16) ++ [Char.ofNat (Text.lowerDigit (value % 16))]

/-- The lengths of the groups but the last. -/
def groups : List Nat := [8, 4, 4, 4]

/-- Digits in groups of those lengths, what is left being the last one. -/
def grouped : (lengths : List Nat) → List Char → List Char
  | [], digits => digits
  | length :: lengths, digits =>
    digits.take length ++ '-' :: grouped lengths (digits.drop length)

/-- The digits of the identifier with the free bits of a number. -/
def digits (bits : Nat) : List Char :=
  hexDigits 12 (bits >>> 74) ++ '4' :: hexDigits 3 (bits >>> 62)
    ++ hexDigits 1 (8 + (bits >>> 60) % 4) ++ hexDigits 15 bits

/-- The text of the identifier with the free bits of a number. -/
def text (bits : Nat) : String :=
  String.ofList (grouped groups (digits bits))

/-- Whether a character is a hexadecimal digit in its small form. -/
def isSmallDigit (c : Char) : Bool :=
  ('0' ≤ c && c ≤ '9') || ('a' ≤ c && c ≤ 'f')

/-- Whether a text is that of a version 4 identifier. -/
def isText (text : String) : Bool :=
  let digits := text.toList.filter (· != '-')
  grouped groups digits = text.toList && digits.length = 32 && digits.all isSmallDigit
    && digits[12]? = some '4' && (digits[16]?.any ['8', '9', 'a', 'b'].contains)

end AppCatalog.Uuid
