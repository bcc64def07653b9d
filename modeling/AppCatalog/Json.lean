import AppCatalog.App
import AppCatalog.Text.Digit

/-!
# JSON

The values that a listing is made of and their compact text: no blanks, members in the order
given, and in texts only the quotation mark, the backslash and the controls below U+0020 escaped.
-/

namespace AppCatalog

/-- A JSON value built from texts, arrays and objects. -/
inductive Json where
  | text (value : String)
  | array (items : List Json)
  | object (members : List (String × Json))

namespace Json

/-- A character inside a JSON text: a short escape if there is one, `\u` and four digits for
the other controls, else the character itself. -/
def escape (c : Char) : List Char :=
  if c = '"' then ['\\', '"']
  else if c = '\\' then ['\\', '\\']
  else if c.toNat = 0x08 then ['\\', 'b']
  else if c.toNat = 0x09 then ['\\', 't']
  else if c.toNat = 0x0A then ['\\', 'n']
  else if c.toNat = 0x0C then ['\\', 'f']
  else if c.toNat = 0x0D then ['\\', 'r']
  else if c.toNat < 0x20 then
    ['\\', 'u', '0', '0', Char.ofNat (Text.lowerDigit (c.toNat / 16)),
      Char.ofNat (Text.lowerDigit (c.toNat % 16))]
  else [c]

/-- A text between quotation marks. -/
def quoted (text : String) : List Char :=
  '"' :: text.toList.flatMap escape ++ ['"']

mutual

/-- The characters of the compact text of a value. -/
def characters : Json → List Char
  | text value => quoted value
  | array items => '[' :: [','].intercalate (itemCharacters items) ++ [']']
  | object members => '\x7b' :: [','].intercalate (memberCharacters members) ++ ['\x7d']

/-- The compact texts of the items of an array. -/
def itemCharacters : List Json → List (List Char)
  | [] => []
  | item :: items => characters item :: itemCharacters items

/-- The compact texts of the members of an object. -/
def memberCharacters : List (String × Json) → List (List Char)
  | [] => []
  | (name, value) :: members =>
    (quoted name ++ ':' :: characters value) :: memberCharacters members

end

/-- The compact text of a value. -/
def render (value : Json) : String :=
  String.ofList value.characters

end Json

/-- A listing entry as an object of three members. -/
def Summary.json (summary : Summary) : Json :=
  .object [("identifier", .text summary.identifier), ("name", .text summary.name),
    ("description", .text summary.description)]

end AppCatalog
