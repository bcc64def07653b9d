import AppCatalog.Pages.Block

/-!
# How texts are written in a database

The texts of a database file are all written in one of three ways: with one to four bytes for each
character, or with units of two bytes, the less significant byte first or last. Texts are kept as
the bytes that write them. What is ill-formed is turned from one way into another by the same rule
as everything else, so it may come out as another character.
-/

namespace AppCatalog

/-- How texts are written. -/
inductive Encoding where
  | utf8
  | utf16le
  | utf16be
  deriving Repr, DecidableEq

namespace Encoding

/-- The way that a number in the header stands for, if it stands for one. -/
def ofCode? (code : Nat) : Option Encoding :=
  if code = 0 then none
  else
    match code % 4 with
    | 2 => some utf16le
    | 3 => some utf16be
    | _ => some utf8

/-- The number that stands for a way to write texts. -/
def code : Encoding → Nat
  | utf8 => 1
  | utf16le => 2
  | utf16be => 3

/-- A way to write texts is read back from its number. -/
theorem ofCode?_code (encoding : Encoding) : ofCode? encoding.code = some encoding := by
  cases encoding <;> rfl

/-! ## Units of one byte -/

/-- The bytes of a code point, at most four of them; what does not fit is dropped. -/
def narrow (point : Nat) : List UInt8 :=
  let tail (shift : Nat) : UInt8 := (0x80 + (point >>> shift) % 0x40).toUInt8
  if point < 0x80 then [point.toUInt8]
  else if point < 0x800 then [(0xC0 + (point >>> 6) % 0x20).toUInt8, tail 0]
  else if point < 0x10000 then [(0xE0 + (point >>> 12) % 0x10).toUInt8, tail 6, tail 0]
  else [(0xF0 + (point >>> 18) % 8).toUInt8, tail 12, tail 6, tail 0]

/-- What the first byte of a code point of several bytes contributes to it. -/
def leading (byte : Nat) : Nat :=
  if byte < 0xE0 then byte - 0xC0
  else if byte < 0xF0 then byte - 0xE0
  else if byte < 0xF8 then byte - 0xF0
  else if byte < 0xFC then byte - 0xF8
  else if byte < 0xFE then byte - 0xFC
  else 0

/-- The code point in place of one that is read but must not be: those that need no second byte,
halves of others, and the last two of all with two bytes. -/
def admitted (point : Nat) : Nat :=
  if point < 0x80 ∨ point / 0x800 = 0xD800 / 0x800 ∨ point / 2 = 0xFFFE / 2 then 0xFFFD else point

/-- The code points of bytes, from a point that was begun on. Any number of bytes may follow the
first one. -/
def pointsFrom : (begun : Option Nat) → List UInt8 → List Nat
  | none, [] => []
  | some point, [] => [admitted point]
  | begun, byte :: bytes =>
    let n := byte.toNat
    match begun with
    | some point =>
      if 0x80 ≤ n ∧ n < 0xC0 then pointsFrom (some ((point * 0x40 + n % 0x40) % 0x100000000)) bytes
      else if n < 0x80 then admitted point :: n :: pointsFrom none bytes
      else admitted point :: pointsFrom (some (leading n)) bytes
    | none =>
      if n < 0xC0 then n :: pointsFrom none bytes
      else pointsFrom (some (leading n)) bytes

/-- The code points that bytes write one by one. -/
def points (bytes : List UInt8) : List Nat := pointsFrom none bytes

/-! ## Units of two bytes -/

/-- The units of a code point. -/
def unitsOf (point : Nat) : List Nat :=
  if point < 0x10000 then [point]
  else
    let high := (point - 0x10000) >>> 10
    [0xD800 + (high >>> 8) % 4 * 0x100 + (high >>> 6) % 4 * 0x40 + (point >>> 10) % 0x40,
      0xDC00 + point % 0x400]

/-- The units that bytes write, the less significant byte first or last. A byte without a second
one is dropped. -/
def units (littleEndian : Bool) : List UInt8 → List Nat
  | a :: b :: bytes =>
    (if littleEndian then b.toNat * 256 + a.toNat else a.toNat * 256 + b.toNat)
      :: units littleEndian bytes
  | _ => []

/-- The bytes that write units. -/
def ofUnits (littleEndian : Bool) (units : List Nat) : List UInt8 :=
  units.flatMap fun unit =>
    if littleEndian then [(unit % 256).toUInt8, (unit / 256).toUInt8]
    else [(unit / 256).toUInt8, (unit % 256).toUInt8]

/-- The code points of units: a half of a code point takes the next unit for its other half,
whatever that is. -/
def pointsOfUnits : List Nat → List Nat
  | [] => []
  | [unit] => [unit]
  | first :: second :: units =>
    if 0xD800 ≤ first ∧ first < 0xE000 then
      let point := second % 0x400 + first % 0x40 * 0x400
        + ((first >>> 6) % 16 + 1) * 0x10000
      point :: pointsOfUnits units
    else first :: pointsOfUnits (second :: units)

/-! ## From one way to another -/

/-- The bytes, one unit for each, of a text of the database. -/
def toUtf8 (encoding : Encoding) (text : Block) : Block :=
  match encoding with
  | utf8 => text
  | utf16le => ((pointsOfUnits (units true text.toList)).flatMap narrow).toArray
  | utf16be => ((pointsOfUnits (units false text.toList)).flatMap narrow).toArray

/-- The text of the database for bytes with one unit for each. -/
def ofUtf8 (encoding : Encoding) (bytes : Block) : Block :=
  match encoding with
  | utf8 => bytes
  | utf16le => (ofUnits true ((points bytes.toList).flatMap unitsOf)).toArray
  | utf16be => (ofUnits false ((points bytes.toList).flatMap unitsOf)).toArray

/-- The text of the database for a text. -/
def ofString (encoding : Encoding) (text : String) : Block :=
  encoding.ofUtf8 (Utf8.encode text).toArray

/-- The text that a text of the database shows, with the replacement character for what is
ill-formed. -/
def toString (encoding : Encoding) (text : Block) : String :=
  Utf8.decodeLossy (encoding.toUtf8 text).toList

end Encoding
end AppCatalog
