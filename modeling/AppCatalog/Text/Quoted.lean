import AppCatalog.Text.Digit
import AppCatalog.Text.Displayable

/-!
# Quoted texts

A text between quotation marks as a message shows it: a quotation mark and a backslash are
escaped, the common controls have short escapes, and whatever cannot be shown on its own is
written by its code point in braces.
-/

namespace AppCatalog.Text

/-- A character of a quoted text. -/
def quotedChar (c : Char) : List Char :=
  if c = '"' then ['\\', '"']
  else if c = '\\' then ['\\', '\\']
  else if c.toNat = 0x00 then ['\\', '0']
  else if c.toNat = 0x09 then ['\\', 't']
  else if c.toNat = 0x0A then ['\\', 'n']
  else if c.toNat = 0x0D then ['\\', 'r']
  else if isDisplayable c then [c]
  else ['\\', 'u', '\x7b'] ++ Nat.toDigits 16 c.toNat ++ ['\x7d']

/-- A text between quotation marks. -/
def quoted (text : String) : String :=
  String.ofList ('"' :: text.toList.flatMap quotedChar ++ ['"'])

end AppCatalog.Text
