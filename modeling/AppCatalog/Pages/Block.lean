import AppCatalog.Text.Utf8

/-!
# Blocks

Bytes that are accessed by position, as a page of a database file or a record in it. Numbers are
written most significant byte first, with a fixed number of bytes or with as many as they need.
Reading behind the end gives zeros, and writing there changes nothing.
-/

namespace AppCatalog

/-- Bytes that are accessed by position. -/
abbrev Block : Type := Array UInt8

namespace Block

/-- A block of zeros. -/
def zeros (count : Nat) : Block := Array.replicate count 0

/-- The byte at a position, zero behind the end. -/
def byte (block : Block) (position : Nat) : Nat :=
  (block.getD position 0).toNat

/-- The bytes between two positions. -/
def between (block : Block) (start stop : Nat) : Block := block.extract start stop

/-- As many bytes from a position, with zeros for those behind the end. -/
def part (block : Block) (position count : Nat) : Block :=
  let found := block.extract position (position + count)
  if found.size = count then found else found ++ zeros (count - found.size)

/-! ## Numbers of fixed length -/

/-- The number that some bytes write. -/
def number (block : Block) (position : Nat) : (count : Nat) → Nat
  | 0 => 0
  | count + 1 => number block position count * 256 + byte block (position + count)

/-- The block with another byte at a position. -/
def setByte (block : Block) (position value : Nat) : Block :=
  block.setIfInBounds position value.toUInt8

/-- The block with a number written at a position. -/
def setNumber (block : Block) (position : Nat) : (count value : Nat) → Block
  | 0, _ => block
  | count + 1, value =>
    setNumber (setByte block (position + count) (value % 256)) position count (value / 256)

/-- The bytes of a number. -/
def ofNumber (count value : Nat) : Block :=
  (zeros count).setNumber 0 count value

/-- The number with its sign in the highest of its bits. -/
def signed (bits value : Nat) : Int :=
  if value < 1 <<< (bits - 1) then value else (value : Int) - (1 <<< bits : Nat)

/-- The number without sign that has the same lowest bits. -/
def unsigned (bits : Nat) (value : Int) : Nat :=
  (value % (1 <<< bits : Nat)).toNat

/-! ## Numbers of variable length -/

/-- Reads a number of variable length from a value so far: seven bits of each byte, as long as
the eighth is set, and all bits of the byte after `count` others. The answer says where it ends. -/
def varintFrom (block : Block) : (count value position : Nat) → Nat × Nat
  | 0, value, position => (value * 256 + byte block position, position + 1)
  | count + 1, value, position =>
    let byte := byte block position
    if byte < 128 then (value * 128 + byte, position + 1)
    else varintFrom block count (value * 128 + (byte - 128)) (position + 1)

/-- A number of variable length, at most nine bytes, and where it ends. -/
def varint (block : Block) (position : Nat) : Nat × Nat :=
  varintFrom block 8 0 position

/-- The greatest number of 32 bits. -/
def maxWord : Nat := 0xFFFFFFFF

/-- A number of variable length that stands for a size: one that is too great counts as the
greatest. -/
def varsize (block : Block) (position : Nat) : Nat × Nat :=
  let (value, stop) := varint block position
  (min value maxWord, stop)

/-- Reads a size whose last byte has seven bits like the others; only 32 bits are kept. -/
def lengthFrom (block : Block) : (count value position : Nat) → Nat × Nat
  | 0, value, position => (value % (maxWord + 1), position)
  | count + 1, value, position =>
    let byte := byte block position
    let value := value * 128 + byte % 128
    if byte < 128 then (value % (maxWord + 1), position + 1)
    else lengthFrom block count value (position + 1)

/-- The length of a record at a position, at most nine bytes, and where it ends. -/
def length (block : Block) (position : Nat) : Nat × Nat :=
  lengthFrom block 9 0 position

/-- The bytes that write a number below `128 ^ count` with seven bits each, the last marked as
such. -/
def septets : (count value : Nat) → (last : Bool) → List UInt8
  | 0, _, _ => []
  | count + 1, value, last =>
    let byte := if last then value % 128 else value % 128 + 128
    let front := if value < 128 then [] else septets count (value / 128) false
    front ++ [byte.toUInt8]

/-- The least number that needs all bits of a ninth byte. -/
def nineByteLimit : Nat := 1 <<< 56

/-- The bytes that write a number of at most 64 bits with variable length. -/
def ofVarint (value : Nat) : Block :=
  if value < nineByteLimit then (septets 8 value true).toArray
  else
    let high := value / 256
    let front := (List.range 8).map fun n => (high >>> (7 * (7 - n)) % 128 + 128).toUInt8
    (front ++ [(value % 256).toUInt8]).toArray

/-- The number of bytes that write a number with variable length. -/
def varintSize (value : Nat) : Nat := (ofVarint value).size

/-! ## Copying -/

/-- The block with the bytes of another one at a position. -/
def put (block : Block) (position : Nat) (source : Block) : Block :=
  let count := min source.size (block.size - position)
  (List.range count).foldl
    (fun block n => block.setIfInBounds (position + n) (source.getD n 0)) block

/-- The block with bytes of its own copied to another position. -/
def move (block : Block) (target source count : Nat) : Block :=
  block.put target (block.extract source (source + count))

/-- The block with zeros at some positions. -/
def clear (block : Block) (position count : Nat) : Block :=
  block.put position (zeros (min count (block.size - position)))

/-! ## Comparing -/

/-- Compares as many bytes from the front, byte by byte. -/
def compareFrom (a b : Block) : (count position : Nat) → Ordering
  | 0, _ => .eq
  | count + 1, position =>
    match compare (byte a position) (byte b position) with
    | .eq => compareFrom a b count (position + 1)
    | order => order

/-- Compares byte by byte; of two that agree as far as the shorter one goes, it comes first. -/
def order (a b : Block) : Ordering :=
  match compareFrom a b (min a.size b.size) 0 with
  | .eq => compare a.size b.size
  | order => order

end Block
end AppCatalog
