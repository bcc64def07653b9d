import AppCatalog.Changes.Constraint

/-!
# Inserting rows

A row that is inserted first gets its number and the values that it was not given. Then it must
satisfy its table. Only then is anything written: first the entries of the indexes, then the row.
-/

namespace AppCatalog

namespace Table

/-! ## Numbers of rows -/

/-- The greatest number of a row. -/
def maxRowid : Int := Value.maxInteger

/-- The greatest number that is taken by chance. -/
def maxRandomRowid : Int := 0x4000000000000000

/-- The greatest number up to a limit that no row has. -/
def freeRowid (cursor : Cursor) : (rounds : Nat) → Int → Volume.Act (Int × Cursor)
  | 0, rowid => return (rowid, cursor)
  | rounds + 1, rowid => do
    let (cursor, order) ← cursor.seek rowid
    if order = .eq then freeRowid cursor rounds (rowid - 1) else return (rowid, cursor)

/-- The number of a new row: one more than the greatest in use, and than those that were in use if
they are counted. When the greatest possible number is in use it may be any free one, if they are
not counted; here it is the greatest up to a limit of those. -/
def newRowid (cursor : Cursor) (counted? : Option Int) : Volume.Act (Int × Cursor) := do
  let cursor ← cursor.last
  let (greatest, cursor) ← if cursor.isOn then cursor.key else pure (0, cursor)
  match counted? with
  | none =>
    if greatest < maxRowid then return (greatest + 1, cursor)
    else freeRowid cursor 0x10000 maxRandomRowid
  | some counted =>
    if counted = maxRowid ∨ greatest = maxRowid then throw .full
    return (max (greatest + 1) (counted + 1), cursor)

/-! ## Writing -/

/-- Writes the entry that an index gets. -/
def writeEntry (table : Table) (schema : Schema) (others : List Nat) (opened : Opened) :
    Volume.Act Opened := do
  match opened.entry? with
  | none => return opened
  | some values =>
    let record := Record.ofValues schema.rowFormat values
    let probe := (table.entryKey schema.encoding opened.index values).probe
    let cursor ← Volume.pinning others
      (Volume.insertRecord opened.cursor probe record opened.order?)
    return { opened with cursor }

/-- Writes the entries that indexes get, first to last. -/
def writeEntries (table : Table) (schema : Schema) (row : Cursor) :
    (before after : List Opened) → Volume.Act (List Opened)
  | before, [] => return before
  | before, opened :: after => do
    let others := row.pages ++ pagesOf before ++ pagesOf after
    let opened ← table.writeEntry schema others opened
    writeEntries table schema row (before ++ [opened]) after

/-- Writes a row that satisfies its table, behind the entries that indexes get for it. -/
def write (table : Table) (schema : Schema) (pending : Pending) (opened : List Opened) :
    Volume.Act Unit := do
  let written ← table.writeEntries schema pending.cursor [] opened
  if let some rowid := pending.row.rowid? then
    let record := Record.ofValues schema.rowFormat (table.recordOf pending.row)
    discard (Volume.pinning (pagesOf written)
      (Volume.insertRow pending.cursor rowid record pending.order? pending.appended))

/-! ## Whole rows -/

/-- A row that is to be inserted: values of some columns, and the value that is given for the number
of the row. -/
structure NewRow where
  values : List (Nat × Value)
  rowid? : Option Value := none

/-- The values of all columns, with defaults for those that are not given. -/
def valuesFor (table : Table) (encoding : Encoding) (new : NewRow) : Run (List Value) :=
  table.columns.zipIdx.mapM fun (column, n) =>
    match new.values.lookup n with
    | some value => return value
    | none => defaultValue encoding column

/-- The row as triggers see it before it is inserted. -/
def proposed (table : Table) (encoding : Encoding) (new : NewRow) : Run StoredRow := do
  let values ← table.valuesFor encoding new
  let given? ← match new.rowid? with
    | none => pure none
    | some .null => pure none
    | some value =>
      match rowidOf? encoding value with
      | some rowid => pure (some rowid)
      | none => Run.fail .mismatch
  let row : StoredRow := { rowid? := some (given?.getD (-1)), values }
  let row ← table.complete encoding (table.withRowid row)
  Run.ofExcept (table.checkTypes row)
  return row

/-- The number that a new row gets, whether it was given, and a cursor that may have looked for
it. -/
def numberFor (table : Table) (encoding : Encoding) (counted? : Option Int) (cursor : Cursor)
    (new : NewRow) : Run (Option Int × Bool × Cursor) := do
  if table.hasRowid then
    match new.rowid?.filter (!·.isNull) with
    | some value =>
      match rowidOf? encoding value with
      | some rowid => return (some rowid, true, cursor)
      | none => Run.fail .mismatch
    | none =>
      let (rowid, cursor) ← (newRowid cursor counted? : Volume.Act _)
      return (some rowid, false, cursor)
  else return (none, false, cursor)

/-- What became of a row that was to be inserted. -/
inductive Insertion where
  | stored (row : StoredRow)
  /-- It was left alone. -/
  | left
  /-- The clause of that place says what is done with the new row and the other one. -/
  | clash (clause : Nat) (row : StoredRow) (other : Cursor)

/-- Inserts a row. -/
def insert (table : Table) (schema : Schema) (override? : Option OnConflict) (counted? : Option Int)
    (guard : Guard) (cursor : Cursor) (opened : List Opened) (new : NewRow)
    (clauses : List ClashClause := []) : Run Insertion := do
  let encoding := schema.encoding
  let (rowid?, isGiven, cursor) ← table.numberFor encoding counted? cursor new
  let values ← table.valuesFor encoding new
  let row ← table.complete encoding (table.withRowid { rowid?, values })
  let pending : Pending := { row, cursor, appended := !isGiven }
  let isNumbered := table.hasRowid && new.rowid?.isSome
  match ← table.accept encoding override? none guard isNumbered opened pending clauses with
  | .left => return .left
  | .clash clause row other => return .clash clause row other
  | .fit pending opened =>
    guard.accept pending.row
    (table.write schema pending opened : Volume.Act Unit)
    return .stored pending.row

end Table
end AppCatalog
