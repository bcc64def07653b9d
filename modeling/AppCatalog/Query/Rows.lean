import AppCatalog.Query.Evaluation
import AppCatalog.Query.Preparation
import AppCatalog.Records.Key

/-!
# Rows of tables

The values of a row where it is stored. A row that was stored before its table had all of its
columns lacks the last ones, which have their defaults then. A column that is generated when it is
read has the value of its expression for the row.
-/

namespace AppCatalog

/-- A row: its number, if rows of its table have one, and the values of all columns. -/
structure StoredRow where
  rowid? : Option Int
  values : List Value

namespace StoredRow

/-- The number of a row as a value. -/
def number (row : StoredRow) : Value := (row.rowid?.map Value.integer).getD .null

/-- What a row has for a column, or for its number. -/
def value (row : StoredRow) (column? : Option Nat) : Value :=
  match column? with
  | none => row.number
  | some n => row.values.getD n .null

end StoredRow

namespace Table

/-! ## Defaults -/

/-- The value of an expression that is written out, if it is. -/
def literal? (encoding : Encoding) : Expression → Option Value
  | .null => some .null
  | .integer value => some (.integer value)
  | .real bits => some (.ofBits bits)
  | .text value => some (.ofString encoding value)
  | .blob bytes => some (.blob bytes)
  | .truth value => some (.ofTruth (some value))
  | .column none name false =>
    if name.toLower = "true" then some (.integer 1)
    else if name.toLower = "false" then some (.integer 0)
    else none
  | .unary .plus operand => literal? encoding operand
  | .unary .minus operand => (literal? encoding operand).map (Unary.minus.apply encoding)
  | .cast operand type => (literal? encoding operand).map (Value.cast encoding type)
  | _ => none

/-- The value that a row has for a column that it was stored without. -/
def missing (encoding : Encoding) (column : Column) : Value :=
  match column.default?.bind (literal? encoding) with
  | some value => column.affinity.apply encoding value
  | none => .null

/-! ## Stored values -/

/-- A cursor for the rows of a table. -/
def cursor (table : Table) : Cursor := { root := table.root, isTable := table.hasRowid }

/-- The place of a column in the records of a table. -/
def recordPlace (table : Table) (n : Nat) : Nat :=
  match table.hasRowid, table.primaryKey? with
  | false, some key => (key.columns.findIdx? (·.item.column? = some n)).getD n
  | _, _ => table.storedAt n

/-- The value of a column, which is not generated when it is read, of the row on which a cursor
rests. -/
def storedValue (table : Table) (encoding : Encoding) (cursor : Cursor) (n : Nat) :
    Volume.Act Value := do
  match table.columns[n]? with
  | none => return .null
  | some column =>
    if table.rowidColumn? = some n then return .integer (← cursor.key).1
    else
      match ← Record.value? cursor (table.recordPlace n) with
      | some value => return value.restored column.affinity
      | none => return missing encoding column

/-! ## Expressions of tables -/

/-- The term that an expression of a table is. Its source has the number zero. -/
def ownTerm (table : Table) (encoding : Encoding) (expression : Expression) : Term :=
  let site : Site := { schema := { encoding, tables := [] }, isDefined := true, isLenient := true }
  let source : QuerySource :=
    { cursor := 0, name := table.name, origin := .table table, heads := table.heads }
  match (site.expression { sources := [{ source }] } expression).alone with
  | .ok (term, _) => term
  | .error _ => .constant .null

/-- The term that the default of a column is. -/
def defaultTerm (encoding : Encoding) (expression : Expression) : Term :=
  let site : Site := { schema := { encoding, tables := [] }, isDefined := true, isLenient := true }
  match (site.expression {} expression).alone with
  | .ok (term, _) => term
  | .error _ => .constant .null

/-- What expressions of a table are evaluated with. -/
def ownSetting (encoding : Encoding) (belonging : Belonging) (field : Field → Run Marked) :
    Setting :=
  { encoding, belonging? := some belonging, field }

/-- The value of an expression of a table for a row. -/
def ownValue (table : Table) (encoding : Encoding) (belonging : Belonging) (row : StoredRow)
    (expression : Expression) : Run Value := do
  let field (field : Field) : Run Marked := return { value := row.value field.column? }
  let setting := ownSetting encoding belonging field
  return (← setting.evaluate (table.ownTerm encoding expression)).value

/-- Whether a condition of a table holds for a row; what counts where that cannot be told is
said. -/
def ownHolds (table : Table) (encoding : Encoding) (belonging : Belonging) (unknown : Bool)
    (row : StoredRow) (condition : Expression) : Run Bool := do
  let field (field : Field) : Run Marked := return { value := row.value field.column? }
  let setting := ownSetting encoding belonging field
  setting.holds unknown (table.ownTerm encoding condition)

/-! ## Generated values -/

/-- Computes the columns that are generated, those of one kind, from the others. A column that
depends on another one that is generated has its value after a further round. -/
def generate (table : Table) (encoding : Encoding) (isWanted : Column → Bool) (row : StoredRow) :
    (rounds : Nat) → Run StoredRow
  | 0 => return row
  | rounds + 1 => do
    let row ← generate table encoding isWanted row rounds
    let mut values := row.values
    for (column, n) in table.columns.zipIdx do
      if let some generated := column.generated? then
        if isWanted column then
          let value ← table.ownValue encoding .generated row generated.value
          values := values.set n (column.affinity.apply encoding value)
    return { row with values }

/-- The value of a column of the row on which a cursor rests; without a place, the number of the
row. What is generated when it is read is computed in so many rounds. -/
def columnAt (table : Table) (encoding : Encoding) (cursor : Cursor) :
    (rounds : Nat) → (column? : Option Nat) → Run Value
  | _, none => do
    if table.hasRowid then return .integer (← (cursor.key : Volume.Act _)).1 else return .null
  | 0, some n => (table.storedValue encoding cursor n : Volume.Act Value)
  | rounds + 1, some n => do
    match table.columns[n]? with
    | some { affinity, generated? := some ⟨expression, false⟩, .. } =>
      let field (field : Field) : Run Marked := do
        return { value := ← columnAt table encoding cursor rounds field.column? }
      let setting := ownSetting encoding .generated field
      let value ← setting.evaluate (table.ownTerm encoding expression)
      return affinity.apply encoding value.value
    | _ => (table.storedValue encoding cursor n : Volume.Act Value)

/-- The value of a column of the row on which a cursor rests. -/
def valueAt (table : Table) (encoding : Encoding) (cursor : Cursor) (n : Nat) : Run Value :=
  table.columnAt encoding cursor (table.columns.length + 1) (some n)

/-- The row on which a cursor rests. -/
def rowAt (table : Table) (encoding : Encoding) (cursor : Cursor) : Run StoredRow := do
  let rowid? ← if table.hasRowid then pure (some (← (cursor.key : Volume.Act _)).1) else pure none
  let mut values : Array Value := #[]
  for (column, n) in table.columns.zipIdx do
    if column.isVirtual then values := values.push .null
    else values := values.push (← (table.storedValue encoding cursor n : Volume.Act Value))
  let row : StoredRow := { rowid?, values := values.toList }
  let count := (table.columns.filter Column.isVirtual).length
  table.generate encoding Column.isVirtual row count

/-! ## All rows -/

/-- The rows from the one on which a cursor rests. -/
def rowsFrom (table : Table) (encoding : Encoding) :
    (rounds : Nat) → Cursor → Array StoredRow → Run (Array StoredRow)
  | 0, _, _ => Run.fail .malformed
  | rounds + 1, cursor, rows => do
    if !cursor.isOn then return rows
    let row ← table.rowAt encoding cursor
    rowsFrom table encoding rounds (← (cursor.next : Volume.Act Cursor)) (rows.push row)

/-- All rows of a table, in its order. -/
def allRows (table : Table) (encoding : Encoding) : Run (List StoredRow) := do
  let first ← (table.cursor.first : Volume.Act Cursor)
  return (← table.rowsFrom encoding Cursor.maxVisits first #[]).toList

end Table
end AppCatalog
