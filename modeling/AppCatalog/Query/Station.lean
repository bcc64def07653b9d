import AppCatalog.Query.Rows

/-!
# Rows at hand

Where a source of rows stands while a selection goes through it: on a row that is known, on one that
is stored, on an entry of an index that leads to one, or on none. What is stored is read only when
it is asked for, and what an entry of an index holds is taken from it.
-/

namespace AppCatalog

namespace Volume

/-- A cursor for a tree, which must have a root. -/
def openTree (root : Nat) (isTable : Bool) : Act Cursor := do
  if root = 0 then giveUp
  return { root, isTable }

/-- A cursor for the entries of an index. -/
def openIndex (index : Index) : Act Cursor := openTree index.root false

end Volume

namespace Table

/-- The values of the primary key of the row to which an entry of an index leads. -/
def keyBehind (index key : Index) (entry : Cursor) : Run (List Value) :=
  key.keyColumns.mapM fun column => do
    let place := (index.columns.findIdx? (·.item.column? = column.item.column?)).getD 0
    return ((← (Record.value? entry place : Volume.Act _)).getD .null)

/-- The row that an entry of an index leads to. -/
def rowBehind (table : Table) (encoding : Encoding) (index : Index) (entry : Cursor) :
    Run (Option Cursor) := do
  let rows ← (Volume.openTree table.root table.hasRowid : Volume.Act Cursor)
  if table.hasRowid then
    let rowid ← (Record.rowid entry : Volume.Act Int)
    let (rows, order) ← (rows.seek rowid : Volume.Act _)
    return if order = .eq then some rows else none
  else
    match table.primaryKey? with
    | none => return none
    | some key =>
      let values ← keyBehind index key entry
      let probe := ({ order := keyOrder encoding key, values } : Key).probe
      let found ← (rows.seekRecord probe : Volume.Act _)
      return if found.order = .eq then some found.cursor else none

/-- The value of a column where an entry of an index leads to. What the entry has is taken from it;
all else is in the row, which must be there. -/
def valueBehind (table : Table) (encoding : Encoding) (index : Index) (entry : Cursor)
    (column? : Option Nat) : Run Value := do
  let isNumber := column?.all fun n => table.rowidColumn? = some n
  if isNumber then
    if table.hasRowid then return .integer (← (Record.rowid entry : Volume.Act _))
    else return .null
  else
    let n := column?.getD 0
    match index.columns.findIdx? (·.item.column? = some n) with
    | some place =>
      let value ← (Record.value? entry place : Volume.Act _)
      let affinity := (table.columns[n]?.map Column.affinity).getD .blob
      return (value.getD .null).restored affinity
    | none =>
      match ← table.rowBehind encoding index entry with
      | none => Run.fail .malformed
      | some row => table.valueAt encoding row n

end Table

/-- Where a source of rows stands. -/
inductive Station where
  /-- On no row. -/
  | vacant
  /-- On a row that is known. -/
  | row (values : List Marked) (number : Value)
  /-- On a row of a table. -/
  | stored (table : Table) (cursor : Cursor)
  /-- On an entry of an index. -/
  | entry (table : Table) (index : Index) (cursor : Cursor)

namespace Station

/-- A row that was read. -/
def ofRow (row : StoredRow) : Station :=
  .row (row.values.map fun value => { value }) row.number

/-- The value of a column, or the number of the row. -/
def value (encoding : Encoding) (station : Station) (column? : Option Nat) : Run Marked :=
  match station, column? with
  | vacant, _ => return Marked.none
  | row _ number, none => return { value := number }
  | row values _, some n => return values.getD n Marked.none
  | stored table cursor, none => do
    return { value := ← table.columnAt encoding cursor 1 none }
  | stored table cursor, some n => do
    return { value := ← table.valueAt encoding cursor n }
  | entry table index cursor, column? => do
    return { value := ← table.valueBehind encoding index cursor column? }

/-- Whether it is on no row. -/
def isVacant : Station → Bool
  | vacant => true
  | _ => false

end Station

/-- The rows at hand, by the numbers of their sources. -/
abbrev Outlook : Type := List (Nat × Station)

namespace Outlook

/-- The value of a column. -/
def value (encoding : Encoding) (outlook : Outlook) (field : Field) : Run Marked :=
  match outlook.lookup field.cursor with
  | none => return Marked.none
  | some station => station.value encoding field.column?

/-- Whether there is no row of a source. -/
def isVacant (outlook : Outlook) (cursor : Nat) : Bool :=
  (outlook.lookup cursor).any Station.isVacant

end Outlook
end AppCatalog
