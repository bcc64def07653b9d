import AppCatalog.Changes.Insertion

/-!
# Counted numbers of rows

A table may count the numbers of its rows, so that none is used again when its row is gone. The
greatest number that was in use stands in a table of its own, under the name of the table.
-/

namespace AppCatalog

/-- What is known of the numbers that were in use in a table: the row that tells about them, if
there is one, and the greatest of them. -/
structure RowCounter where
  table : Table
  rowid? : Option Int
  greatest : Int

namespace Schema

/-- The name of the table with the greatest numbers. -/
def countersName : String := "sqlite_sequence"

/-- The table with the greatest numbers. -/
def counters (schema : Schema) : Except SqlError Table :=
  match schema.tables.find? (·.name = countersName) with
  | some table =>
    if table.hasRowid && table.columns.length = 2 then .ok table else .error .malformedCounters
  | none => .error .malformedCounters

/-- Looks for the greatest number of a table from the row on which a cursor rests. -/
def counterFrom (schema : Schema) (counters table : Table) :
    (rounds : Nat) → Cursor → Volume.Act RowCounter
  | 0, _ => throw .malformed
  | rounds + 1, cursor => do
    if !cursor.isOn then return { table := counters, rowid? := none, greatest := 0 }
    let name ← counters.storedValue schema.encoding cursor 0
    if name.compareTo schema.encoding .binary (.ofString schema.encoding table.name) = .eq then
      let (rowid, cursor) ← cursor.key
      let greatest ← counters.storedValue schema.encoding cursor 1
      let number := greatest.toInteger schema.encoding
      return { table := counters, rowid? := some rowid, greatest := number }
    else counterFrom schema counters table rounds (← cursor.next)

/-- The greatest number of a table whose rows are counted. -/
def counter? (schema : Schema) (table : Table) : Volume.Act (Option RowCounter) := do
  if !table.isCounted then return none
  let counters ← MonadExcept.ofExcept schema.counters
  let first ← counters.cursor.first
  return some (← schema.counterFrom counters table Cursor.maxVisits first)

/-- Tells of a number that came into use. -/
def setCounter (schema : Schema) (counter : RowCounter) (table : Table) (rowid : Int) :
    Volume.Act Unit := do
  if counter.rowid?.isNone || counter.greatest < rowid then
    let cursor := counter.table.cursor
    let greatest := max rowid counter.greatest
    let record := Record.ofValues schema.rowFormat
      [.ofString schema.encoding table.name, .integer greatest]
    match counter.rowid? with
    | some row => discard (Volume.insertRow cursor row record)
    | none =>
      let (row, cursor) ← Table.newRowid cursor none
      discard (Volume.insertRow cursor row record none true)

end Schema
end AppCatalog
