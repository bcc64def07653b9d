import AppCatalog.Pages.Cursor
import AppCatalog.Records.Affinity

/-!
# Records

The values of a row or of an entry of an index, as bytes: first how long the list of types is,
then the type of each value, then the values. A record may have fewer values than its table has
columns. Only as much of a record is looked at as the value that is asked for needs, and only that
has to be in order.
-/

namespace AppCatalog

namespace Value

/-- The number of bytes of a value of that type. -/
def byteCount (type : Nat) : Nat :=
  if type < 5 then type
  else if type = 5 then 6
  else if type < 8 then 8
  else if type < 12 then 0
  else (type - 12) / 2

/-- Whether a type is one of whole numbers. -/
def isIntegerType (type : Nat) : Bool :=
  (0 < type && type < 7) || type = 8 || type = 9

/-- The whole number of a type at a position. -/
def integerAt (bytes : Block) (position type : Nat) : Int :=
  if type = 8 then 0
  else if type = 9 then 1
  else
    let count := byteCount type
    Block.signed (8 * count) (bytes.number position count)

/-- The value of a type at a position. -/
def read (bytes : Block) (position type : Nat) : Value :=
  let count := byteCount type
  if isIntegerType type then integer (integerAt bytes position type)
  else if type = 7 then ofBits (bytes.number position 8).toUInt64
  else if type < 12 then null
  else if type % 2 = 0 then blob (bytes.part position count)
  else text (bytes.part position count)

/-! ## Writing -/

/-- The type of a whole number. The numbers 0 and 1 need no bytes from a format of rows on. -/
def integerType (rowFormat : Nat) (value : Int) : Nat :=
  let size : Int := if value < 0 then -value - 1 else value
  if size ≤ 0x7F then
    if 4 ≤ rowFormat ∧ value = 0 then 8 else if 4 ≤ rowFormat ∧ value = 1 then 9 else 1
  else if size ≤ 0x7FFF then 2
  else if size ≤ 0x7FFFFF then 3
  else if size ≤ 0x7FFFFFFF then 4
  else if size ≤ 0x7FFFFFFFFFFF then 5
  else 6

/-- The type and the bytes of a value. -/
def encoded (rowFormat : Nat) : Value → Nat × Block
  | null => (0, #[])
  | integer value =>
    let type := integerType rowFormat value
    let count := byteCount type
    (type, Block.ofNumber count (Block.unsigned (8 * count) value))
  | real bits => (7, Block.ofNumber 8 bits.toNat)
  | text bytes => (13 + 2 * bytes.size, bytes)
  | blob bytes => (12 + 2 * bytes.size, bytes)

/-- The value that is stored for one in a column: a column for floating-point numbers stores one
that is whole and has few digits as a whole number. -/
def stored (affinity : Affinity) (value : Value) : Value :=
  match affinity, value with
  | .real, real _ =>
    match Affinity.wholeIfExact value with
    | integer n => if Value.integerType 4 n < 6 ∨ 7 < Value.integerType 4 n then integer n else value
    | _ => value
  | _, value => value

/-- The value of a column that stores one. -/
def restored (affinity : Affinity) (value : Value) : Value :=
  match affinity, value with
  | .real, integer n => ofDouble (.ofInt n)
  | _, value => value

end Value

namespace Record

/-- The length of the list of types, its own length included, if the types have so many bytes. -/
def headSize (types : Nat) : Nat :=
  if types ≤ 126 then types + 1
  else
    let size := types + Block.varintSize types
    if Block.varintSize types < Block.varintSize size then size + 1 else size

/-- The record of some values. -/
def ofValues (rowFormat : Nat) (values : List Value) : Block :=
  let parts := values.map (Value.encoded rowFormat)
  let types := parts.foldl (fun types part => types ++ Block.ofVarint part.1) #[]
  let head := Block.ofVarint (headSize types.size) ++ types
  parts.foldl (fun record part => record ++ part.2) head

/-! ## Finding values -/

/-- Where a value of a record is. -/
structure Spot where
  type : Nat
  /-- Where it starts. -/
  start : Nat
  deriving Repr, DecidableEq

/-- Reads types up to one after `count` others, from the type at `position` of a value that starts
at `start`. The answer says where that value is, if there is one, where the next type is, and where
the values end. -/
def spotFrom (bytes : Block) (stop : Nat) :
    (count position start : Nat) → Option Spot × Nat × Nat
  | count, position, start =>
    let (type, next) := bytes.varsize position
    let finish := start + Value.byteCount type
    match count with
    | 0 => (some ⟨type, start⟩, next, finish)
    | count + 1 => if next < stop then spotFrom bytes stop count next finish else (none, next, finish)

/-- Finds the value after `count` others in a record of that length, whose list of types stands at
the front of some bytes. -/
def spot? (bytes : Block) (length count : Nat) : Except SqlError (Option Spot) :=
  let (stop, first) := bytes.varsize 0
  let (spot?, next, finish) := spotFrom bytes stop count first stop
  let isAll := decide (stop ≤ next)
  if (isAll && (stop < next || finish ≠ length)) || length < finish then
    if stop = 0 then .ok none else .error .malformed
  else .ok spot?

/-- The greatest length of a list of types. -/
def maxHead : Nat := 98307

/-- The greatest length of a text. -/
def maxText : Nat := 1000000000

/-- The value after `count` others of the record on which a cursor rests, if there is one. -/
def value? (cursor : Cursor) (count : Nat) : Volume.Act (Option Value) := do
  let front ← cursor.front
  if front.bytes.isEmpty then throw .malformed
  let (stop, _) := front.bytes.varsize 0
  let isHere := stop ≤ front.here
  let head ←
    if isHere then pure front.bytes
    else if maxHead < stop ∨ front.length < stop then throw .malformed
    else cursor.fetch 0 stop
  match ← MonadExcept.ofExcept (spot? head front.length count) with
  | none => return none
  | some spot =>
    let size := Value.byteCount spot.type
    if isHere && spot.start + size ≤ front.here then
      return some (Value.read front.bytes spot.start spot.type)
    else if size = 0 then return some (Value.read #[] 0 spot.type)
    else if maxText < size then throw .tooBig
    else
      let bytes ←
        if 4000 < size && cursor.isTable then cursor.read spot.start size
        else cursor.fetch spot.start size
      return some (Value.read bytes 0 spot.type)

/-- The number of the row that an entry of an index, on which a cursor rests, leads to: the last
value of the entry. -/
def rowid (cursor : Cursor) : Volume.Act Int := do
  let length := (← cursor.front).length
  let bytes ← cursor.fetchFront length
  let (stop, _) := bytes.varsize 0
  if stop < 3 ∨ length < stop then throw .malformed
  let (type, _) := bytes.varsize (stop - 1)
  let size := Value.byteCount type
  if !Value.isIntegerType type ∨ length < stop + size then throw .malformed
  return Value.integerAt bytes (length - size) type

end Record
end AppCatalog
