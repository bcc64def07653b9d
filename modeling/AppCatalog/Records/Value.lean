import AppCatalog.Decimal.Bits
import AppCatalog.Records.Encoding

/-!
# Values

The values of rows: nothing, whole numbers of 64 bits, floating-point numbers, texts and plain
bytes. Values of any kind compare with each other. Texts compare by one of three orders: byte by
byte, without regard to the case of letters, or without regard to blanks at the end.
-/

namespace AppCatalog

/-- A value of a row. A text is kept as the bytes that write it in the database. -/
inductive Value where
  | null
  | integer (value : Int)
  | real (bits : UInt64)
  | text (bytes : Block)
  | blob (bytes : Block)
  deriving Repr, DecidableEq

/-! ## Orders of texts -/

/-- An order of texts. -/
inductive Collation where
  | binary
  | nocase
  | rtrim
  /-- An order that is not known; nothing can be compared by it. -/
  | unknown (name : String)
  deriving Repr, DecidableEq

namespace Collation

/-- The name of an order. -/
def name : Collation → String
  | binary => "BINARY"
  | nocase => "NOCASE"
  | rtrim => "RTRIM"
  | unknown name => name

/-- The order of that name, whatever the case of its letters. -/
def ofName (name : String) : Collation :=
  ([binary, nocase, rtrim].find? (·.name.toLower = name.toLower)).getD (unknown name)

/-- Whether texts can be compared by the order. -/
def isKnown : Collation → Bool
  | unknown _ => false
  | _ => true

/-- A byte with the small letter in place of a capital one. -/
def lower (byte : Nat) : Nat := if 65 ≤ byte ∧ byte ≤ 90 then byte + 32 else byte

/-- Compares as many bytes of two texts without regard to case. A zero byte that both have ends
the comparison. -/
def compareLower (a b : Block) : (count position : Nat) → Ordering
  | 0, _ => .eq
  | count + 1, position =>
    let x := lower (a.byte position)
    let y := lower (b.byte position)
    if x = y ∧ x ≠ 0 then compareLower a b count (position + 1) else compare x y

/-- A text without the blanks at its end. -/
def trimmed (text : Block) : Block := text.popWhile (· == 32)

/-- Compares two texts. All orders but the first look at them with one unit for each byte. -/
def compareTexts (collation : Collation) (encoding : Encoding) (a b : Block) : Ordering :=
  match collation with
  | binary | unknown _ => Block.order a b
  | nocase =>
    let a := encoding.toUtf8 a
    let b := encoding.toUtf8 b
    match compareLower a b (min a.size b.size) 0 with
    | .eq => compare a.size b.size
    | order => order
  | rtrim => Block.order (trimmed (encoding.toUtf8 a)) (trimmed (encoding.toUtf8 b))

end Collation

namespace Value

/-- The least and the greatest whole number. -/
def minInteger : Int := -0x8000000000000000

/-- The greatest whole number. -/
def maxInteger : Int := 0x7FFFFFFFFFFFFFFF

/-- The value of bits, which may be no number at all. -/
def ofBits (bits : UInt64) : Value :=
  if Double.ofBits bits = .nan then null else real bits

/-- The value of a floating-point number. -/
def ofDouble (number : Double) : Value := ofBits number.toBits

/-- The value of a text. -/
def ofString (encoding : Encoding) (text : String) : Value := .text (encoding.ofString text)

/-- Whether there is no value. -/
def isNull (value : Value) : Bool := value = null

/-- The place of kinds of values among each other. -/
def rank : Value → Nat
  | null => 0
  | integer _ => 1
  | real _ => 1
  | text _ => 2
  | blob _ => 3

/-- Compares two values. -/
def compareTo (encoding : Encoding) (collation : Collation) (a b : Value) : Ordering :=
  match a, b with
  | integer a, integer b => compare a b
  | integer a, real b => ((Double.ofBits b).compareRatio (a, 1)).swap
  | real a, integer b => (Double.ofBits a).compareRatio (b, 1)
  | real a, real b => (Double.ofBits a).compareTo (Double.ofBits b)
  | text a, text b => collation.compareTexts encoding a b
  | blob a, blob b => Block.order a b
  | a, b => compare a.rank b.rank

end Value
end AppCatalog
