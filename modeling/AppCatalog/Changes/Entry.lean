import AppCatalog.Pages.Vacuum
import AppCatalog.Query.Station

/-!
# Entries of indexes

What the indexes on a table hold for a row, and how rows and entries come into their trees and out
of them again.
-/

namespace AppCatalog

namespace Table

/-! ## What an index holds -/

/-- The value of a row that an index orders by. -/
def itemValue (table : Table) (encoding : Encoding) (row : StoredRow) : IndexItem → Run Value
  | .rowid => return (row.rowid?.map Value.integer).getD .null
  | .column n =>
    if table.rowidColumn? = some n then return (row.rowid?.map Value.integer).getD .null
    else
      let affinity := (table.columns[n]?.map Column.affinity).getD .blob
      return (row.values.getD n .null).stored affinity
  | .expression expression => table.ownValue encoding .index row expression

/-- Whether an index has an entry for a row. -/
def isIndexed (table : Table) (encoding : Encoding) (row : StoredRow) (index : Index) :
    Run Bool := do
  match index.condition? with
  | none => return true
  | some condition => table.ownHolds encoding .index false row condition

/-- The entry of an index for a row, if it has one. -/
def entryOf (table : Table) (encoding : Encoding) (row : StoredRow) (index : Index) :
    Run (Option (List Value)) := do
  if ← table.isIndexed encoding row index then
    return some (← index.columns.mapM fun column => table.itemValue encoding row column.item)
  else return none

/-- The values of a row as its record holds them: the number of the row stands elsewhere. -/
def recordOf (table : Table) (row : StoredRow) : List Value :=
  table.storedColumns.map fun (n, column) =>
    if table.rowidColumn? = some n then .null
    else (row.values.getD n .null).stored column.affinity

/-- What an entry is found by. -/
def entryKey (table : Table) (encoding : Encoding) (index : Index) (values : List Value) : Key :=
  let count := if table.isBound index then index.keyWidth else values.length
  { order := keyOrder encoding index, values := values.take count }

end Table

namespace Table

/-- An index with a cursor for its entries, and the entry that it gets. -/
structure Opened where
  index : Index
  cursor : Cursor
  entry? : Option (List Value) := none
  /-- How the entry on which the cursor rests compares with the new one, if that is known. -/
  order? : Option Ordering := none

/-- A cursor for the rows of a table, and those for its indexes. -/
def openAll (table : Table) : Volume.Act (Cursor × List Opened) := do
  let cursor ← Volume.openTree table.root table.hasRowid
  let opened ← table.indexes.mapM fun index => do
    return { index, cursor := ← Volume.openIndex index }
  return (cursor, opened)

/-- The pages on which the cursors for indexes rest. -/
def pagesOf (opened : List Opened) : List Nat := opened.flatMap (·.cursor.pages)

/-! ## Taking rows out -/

/-- Takes the entry of an index for a row away. It must be there. -/
def deleteEntry (table : Table) (encoding : Encoding) (index : Index) (values : List Value) :
    Volume.Act Unit := do
  let cursor ← Volume.openIndex index
  let found ← cursor.seekRecord (table.entryKey encoding index values).probe
  if found.order = .eq then discard (Volume.deleteCell found.cursor false)
  else throw .malformedIndex

/-- The entry of an index for the row on which a cursor rests, if it has one. Only what the entry
needs is read of the row. -/
def entryAt (table : Table) (encoding : Encoding) (cursor : Cursor) (index : Index) :
    Run (Option (List Value)) := do
  let isPlain := index.condition?.isNone && index.columns.all fun column =>
    match column.item with
    | .column n => !(table.columns[n]?.any Column.isVirtual)
    | .rowid => true
    | .expression _ => false
  if isPlain then
    let values ← index.columns.mapM fun column =>
      match column.item with
      | .column n => do
        let affinity := (table.columns[n]?.map Column.affinity).getD .blob
        return (← (table.storedValue encoding cursor n : Volume.Act Value)).stored affinity
      | _ => do return .integer (← (cursor.key : Volume.Act _)).1
    return some values
  else table.entryOf encoding (← table.rowAt encoding cursor) index

/-- Takes the entries of all indexes for the row on which a cursor rests away, but for that of the
primary key if that is where the row itself is. -/
def deleteEntries (table : Table) (encoding : Encoding) (cursor : Cursor) : Run Unit := do
  for index in table.indexes do
    if index.root = 0 then Run.fail .malformed
  for index in table.indexes do
    unless !table.hasRowid && index.isPrimaryKey do
      if let some values ← table.entryAt encoding cursor index then
        (Volume.pinning cursor.pages (table.deleteEntry encoding index values) : Volume.Act Unit)

/-- Takes the row on which a cursor rests away, with its entries. -/
def deleteAt (table : Table) (encoding : Encoding) (cursor : Cursor) : Run Unit := do
  table.deleteEntries encoding cursor
  discard (Volume.deleteCell cursor false : Volume.Act Cursor)

/-- What the row itself is found by in a table without numbers of rows. -/
def keyOf (table : Table) (encoding : Encoding) (row : StoredRow) : Run (Option Key) := do
  match table.primaryKey? with
  | none => return none
  | some index =>
    let values ← index.keyColumns.mapM fun column => table.itemValue encoding row column.item
    return some { order := keyOrder encoding index, values }

/-- A cursor on a row, if it is there. -/
def findRow (table : Table) (encoding : Encoding) (row : StoredRow) : Run (Option Cursor) := do
  let cursor ← (Volume.openTree table.root table.hasRowid : Volume.Act Cursor)
  match table.hasRowid, row.rowid? with
  | true, some rowid =>
    let (cursor, order) ← (cursor.seek rowid : Volume.Act _)
    return if order = .eq then some cursor else none
  | _, _ =>
    match ← table.keyOf encoding row with
    | none => return none
    | some key =>
      let found ← (cursor.seekRecord key.probe : Volume.Act _)
      return if found.order = .eq then some found.cursor else none

/-- Takes a row away, if it is there. -/
def deleteRow (table : Table) (encoding : Encoding) (row : StoredRow) : Run Unit := do
  if let some cursor ← table.findRow encoding row then table.deleteAt encoding cursor

end Table
end AppCatalog
