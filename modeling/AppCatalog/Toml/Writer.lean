import AppCatalog.Text.Digit
import AppCatalog.Toml.Value

/-!
# Writing TOML

Texts as basic strings, whole numbers in decimal, and truth values: what a document written by
this library is made of.
-/

namespace AppCatalog.Toml

/-- A character of a basic text: a quotation mark, a backslash and every control but the tab
escaped. -/
def writtenChar (c : Char) : List Char :=
  if c = '"' then ['\\', '"']
  else if c = '\\' then ['\\', '\\']
  else if c.toNat = 0x08 then ['\\', 'b']
  else if c.toNat = 0x09 then ['\\', 't']
  else if c.toNat = 0x0A then ['\\', 'n']
  else if c.toNat = 0x0C then ['\\', 'f']
  else if c.toNat = 0x0D then ['\\', 'r']
  else if c.toNat < 0x20 ∨ c.toNat = 0x7F then
    ['\\', 'u', '0', '0', Char.ofNat (Text.upperDigit (c.toNat / 16)),
      Char.ofNat (Text.upperDigit (c.toNat % 16))]
  else [c]

/-- A text as a basic string. -/
def writtenText (text : String) : List Char :=
  '"' :: text.toList.flatMap writtenChar ++ ['"']

/-- A whole number in decimal. -/
def writtenNat (n : Nat) : List Char :=
  Nat.toDigits 10 n

/-- A truth value. -/
def writtenBool (b : Bool) : List Char :=
  if b then "true".toList else "false".toList

/-- A line that assigns a written value to a bare key. -/
def writtenLine (key : String) (value : List Char) : List Char :=
  key.toList ++ " = ".toList ++ value ++ ['\n']

/-- A header line of a table. -/
def writtenHeader (key : String) : List Char :=
  '[' :: key.toList ++ [']', '\n']

end AppCatalog.Toml
