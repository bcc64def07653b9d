import AppCatalog.Records.Record

/-!
# Keys

The order of the entries of an index: value by value, each by the order of texts of its column,
and backwards in a column that descends. A key is the first values of an entry. What compares
equal as far as the key goes counts as before or behind the key, whichever is asked for.

An entry is compared where it stands, so one that is cut off is noticed only if the comparison
comes to it.
-/

namespace AppCatalog

/-- How an index orders the values of a column. -/
structure KeyColumn where
  collation : Collation := .binary
  descending : Bool := false
  deriving Repr, DecidableEq

/-- How an index orders its entries. -/
structure KeyOrder where
  encoding : Encoding
  /-- The columns by which entries are ordered; those behind them are ordered plainly. -/
  columns : List KeyColumn
  /-- The number of values of an entry. -/
  width : Nat
  deriving Repr, DecidableEq

/-- Values that the first ones of an entry are compared with. -/
structure Key where
  order : KeyOrder
  values : List Value
  /-- How an entry counts that starts with the values. -/
  whenEqual : Ordering := .eq

namespace Key

/-- How the index orders values of a column. -/
def column (key : Key) (n : Nat) : KeyColumn := key.order.columns.getD n {}

/-- An order, backwards in a column that descends. -/
def directed (key : Key) (n : Nat) (order : Ordering) : Ordering :=
  if (key.column n).descending then order.swap else order

/-- Compares a number of a type, at a position, with one of a key; nothing comes before numbers,
and all else behind them. -/
def compareNumber (bytes : Block) (position type : Nat) (value : Value) : Ordering :=
  if 10 ≤ type then if type = 10 then .lt else .gt
  else if type = 0 then .lt
  else
    match Value.read bytes position type with
    | .null => .lt
    | found => found.compareTo .utf8 .binary value

/-- Compares the value of an entry whose type stands at `typeAt` with the one of the key after `n`
others. The answer also gives the type. -/
def compareValue (key : Key) (bytes : Block) (stop : Nat) (n typeAt position : Nat)
    (value : Value) : Except SqlError (Ordering × Nat) :=
  let short := bytes.byte typeAt
  let type := (bytes.varsize typeAt).1
  let finish := position + Value.byteCount type
  match value with
  | .integer _ => .ok (compareNumber bytes position short value, short)
  | .real _ => .ok (compareNumber bytes position short value, short)
  | .text wanted =>
    if type < 12 then .ok (.lt, type)
    else if type % 2 = 0 then .ok (.gt, type)
    else if stop < finish ∨ key.order.width ≤ n then .error .malformed
    else
      let found := bytes.part position (Value.byteCount type)
      .ok ((key.column n).collation.compareTexts key.order.encoding found wanted, type)
  | .blob wanted =>
    if type < 12 ∨ type % 2 = 1 then .ok (.lt, type)
    else if stop < finish then .error .malformed
    else .ok (Block.order (bytes.part position (Value.byteCount type)) wanted, type)
  | .null =>
    let isNull := short = 0 || short = 10 ||
      (short = 7 && (Value.read bytes position 7).isNull)
    .ok (if isNull then .eq else .gt, short)

/-- Compares an entry, which ends at `stop` and whose list of types ends at `typesEnd`, with the
values of the key after `n` others. -/
def compareFrom (key : Key) (bytes : Block) (stop typesEnd : Nat) :
    (values : List Value) → (n typeAt position : Nat) → Except SqlError Cursor.Match
  | [], _, _, _ => .ok { order := key.whenEqual, isMet := true }
  | value :: values, n, typeAt, position => do
    let (order, type) ← compareValue key bytes stop n typeAt position value
    if order ≠ .eq then return { order := key.directed n order }
    let position := position + Value.byteCount type
    let typeAt := typeAt + Block.varintSize type
    if values.isEmpty ∨ stop < position then return { order := key.whenEqual, isMet := true }
    else if typesEnd ≤ typeAt then throw .malformed
    else compareFrom key bytes stop typesEnd values (n + 1) typeAt position

/-- Compares any entry with a key. -/
def compareEntry (key : Key) (bytes : Block) (start length : Nat) :
    Except SqlError Cursor.Match :=
  let (types, first) := bytes.varsize start
  if length < types then .error .malformed
  else compareFrom key bytes (start + length) (start + types) key.values 0 first (start + types)

/-- Compares an entry whose first value is known to equal the first one of the key. -/
def compareTail (key : Key) (bytes : Block) (start length : Nat) :
    Except SqlError Cursor.Match :=
  match key.values with
  | [] => .ok { order := key.whenEqual, isMet := true }
  | [_] => .ok { order := key.whenEqual, isMet := true }
  | _ :: values =>
    let types := bytes.byte start
    let (type, next) := bytes.varsize (start + 1)
    let position := start + types + Value.byteCount type
    if start + length < position then .error .malformed
    else compareFrom key bytes (start + length) (start + types) values 1 next position

/-- The greatest number of values of an entry whose list of types is taken to be short. -/
def maxPlainWidth : Nat := 13

/-- Compares a short entry with a key. The first value is compared by itself if that is simple. -/
def compareShort (key : Key) (bytes : Block) (start length : Nat) :
    Except SqlError Cursor.Match :=
  let isPlain := decide (key.order.width ≤ maxPlainWidth)
  let type := bytes.byte (start + 1)
  match isPlain, key.values.head? with
  | true, some (.integer wanted) =>
    if Value.isIntegerType type then
      let found := Value.integerAt bytes (start + bytes.byte start % 0x40) type
      match compare found wanted with
      | .eq => key.compareTail bytes start length
      | order => .ok { order := key.directed 0 order }
    else key.compareEntry bytes start length
  | true, some (.text wanted) =>
    if (key.column 0).collation ≠ .binary then key.compareEntry bytes start length
    else
      let type := (bytes.varsize (start + 1)).1
      if type < 12 ∨ 0x80000000 ≤ type then .ok { order := key.directed 0 .lt }
      else if type % 2 = 0 then .ok { order := key.directed 0 .gt }
      else
        let size := Value.byteCount type
        let types := bytes.byte start
        if length < types + size then .error .malformed
        else
          match Block.order (bytes.part (start + types) size) wanted with
          | .eq => key.compareTail bytes start length
          | order => .ok { order := key.directed 0 order }
  | _, _ => key.compareEntry bytes start length

/-- The search for a key. -/
def probe (key : Key) : Cursor.Probe where
  compareShort := key.compareShort
  compare := key.compareEntry

/-- Compares the entry on which a cursor rests with a key. An entry that cannot be compared counts
as equal. -/
def compareAt (key : Key) (cursor : Cursor) : Volume.Act Ordering := do
  let length := (← cursor.front).length
  if length = 0 ∨ 0x7FFFFFFF < length then throw .malformed
  let bytes ← cursor.fetchFront length
  match key.compareEntry bytes 0 length with
  | .ok found => return found.order
  | .error _ => return .eq

end Key
end AppCatalog
