import AppCatalog.Changes.Clash
import AppCatalog.Changes.Entry

/-!
# Constraints

What a table asks of each of its rows: that columns which need a value have one, that values have
the types of a strict table, that conditions hold or cannot be told, and that no other row has the
number or a key of the row. What happens to a row that violates one of them is said by the
constraint, or by the statement. A row that makes way for another one is taken out before anything
is written.

When a row changes, only what the change concerns is asked for.
-/

namespace AppCatalog

/-- What changes in a row: some of its columns, and perhaps its number. -/
structure Alteration where
  /-- The places of the columns. -/
  columns : List Nat
  rowid : Bool

namespace Table

/-! ## What a change concerns -/

/-- Whether a change concerns a column. -/
def isAltered (table : Table) (change : Alteration) (n : Nat) : Bool :=
  change.columns.contains n || (change.rowid && table.rowidColumn? = some n)

/-- Whether an expression speaks of what changes. -/
def speaksOf (table : Table) (change : Alteration) (expression : Expression) : Bool :=
  let act (part : Expression) : Except String Unit :=
    match part with
    | .column _ name _ =>
      match table.find? name with
      | some n => if table.isAltered change n then .error name else .ok ()
      | none => if change.rowid && isRowidName name then .error name else .ok ()
    | _ => .ok ()
  !(expression.visit act).isOk

/-- A change together with the columns that are generated from what changes. A column that depends
on another one that is generated is found in a further round. -/
def spread (table : Table) : (rounds : Nat) → Alteration → Alteration
  | 0, change => change
  | rounds + 1, change =>
    let isNew (column : Column) (n : Nat) : Bool :=
      !change.columns.contains n &&
        column.generated?.any fun generated => table.speaksOf change generated.value
    let found := (table.columns.zipIdx.filter fun (column, n) => isNew column n).map (·.2)
    if found.isEmpty then change
    else spread table rounds { change with columns := change.columns ++ found }

/-! ## Values -/

/-- The value of a column for which none is given. -/
def defaultValue (encoding : Encoding) (column : Column) : Run Value :=
  match column.default? with
  | none => return .null
  | some value => do
    let setting : Setting := { encoding }
    return (← setting.evaluate (defaultTerm encoding value)).value

/-- What the columns of a table make of the values of a row. -/
def applyAffinities (table : Table) (encoding : Encoding) (row : StoredRow) : StoredRow :=
  { row with
    values := row.values.zipWith (fun value column => column.affinity.apply encoding value)
      table.columns }

/-- The kind of value that a column of a strict table takes; none if it takes any. -/
def strictKind? (column : Column) : Option String :=
  match column.type.toLower with
  | "any" => none
  | "int" => some "integer"
  | type => some type

/-- How a kind of values is called when a value of it cannot be stored. -/
def kindTitle (value : Value) : String :=
  if value.kindName = "integer" then "INT" else value.kindName.toUpper

/-- Checks that the values of a row have the types of a strict table. Those of columns that are
generated when they are read may have any; others that are generated are checked if that is asked
for. -/
def checkTypes (table : Table) (row : StoredRow) (withGenerated : Bool := true) :
    Except SqlError Unit := do
  if table.isStrict then
    for (column, value) in table.columns.zip row.values do
      let isChecked := if withGenerated then !column.isVirtual else !column.isGenerated
      if isChecked then
        if let some kind := strictKind? column then
          let isFit := value.isNull || value.kindName = kind ||
            (kind = "real" && value.kindName = "integer")
          unless isFit do
            throw (.violated .type ("cannot store " ++ kindTitle value ++ " value in "
              ++ column.type.toUpper ++ " column " ++ table.name ++ "." ++ column.name))

/-- A row with the values that its table makes of it, and those that are generated. Only what
values are generated from is checked for its type. -/
def complete (table : Table) (encoding : Encoding) (row : StoredRow) : Run StoredRow := do
  let row := table.applyAffinities encoding row
  let count := (table.columns.filter Column.isGenerated).length
  if count = 0 then return row
  else
    Run.ofExcept (table.checkTypes row false)
    table.generate encoding Column.isGenerated row count

/-- The value of the column that holds the number of a row is that number. -/
def withRowid (table : Table) (row : StoredRow) : StoredRow :=
  match table.rowidColumn?, row.rowid? with
  | some n, some rowid => { row with values := row.values.set n (.integer rowid) }
  | _, _ => row

/-- The number of a row that a value asks for, if it is one. -/
def rowidOf? (encoding : Encoding) (value : Value) : Option Int :=
  match Affinity.numeric.apply encoding value with
  | .integer n => some n
  | _ => none

/-! ## Values that are needed -/

/-- What becomes of a row that violates a constraint: it is left alone, or the statement fails. -/
def refuse {α : Type} (action : OnConflict) (constraint : Constraint) (what : String) :
    Run (Option α) :=
  match action with
  | .ignore => return none
  | action => Run.violate action constraint what

/-- Checks that columns have the values that they need. The answer is the row with defaults in
place of what it lacks, where those are asked for. A default that is nothing does not help, which
is noticed at last, like a lack in a column that is generated. -/
def checkNotNull (table : Table) (encoding : Encoding) (override? : Option OnConflict)
    (change? : Option Alteration) (row : StoredRow) : Run (Option StoredRow) := do
  let asked := table.columns.zipIdx.filter fun (column, n) =>
    column.notNull?.isSome && table.rowidColumn? ≠ some n &&
      (column.isGenerated || change?.all (table.isAltered · n))
  let actionOf (column : Column) : OnConflict :=
    override?.getD (column.notNull?.getD .abort)
  let isHelped (column : Column) : Bool :=
    !column.isGenerated && actionOf column = .replace && column.default?.isSome
  let title (column : Column) : String := table.name ++ "." ++ column.name
  let mut row := row
  let mut isChanged := false
  for (column, n) in asked do
    if !column.isGenerated && (row.values.getD n .null).isNull then
      if isHelped column then
        let value ← defaultValue encoding column
        row := { row with values := row.values.set n (column.affinity.apply encoding value) }
        isChanged := true
      else
        let action := if actionOf column = .replace then .abort else actionOf column
        return ← refuse action .notNull (title column)
  if isChanged then row ← table.complete encoding row
  for (column, n) in asked do
    if (column.isGenerated || isHelped column) && (row.values.getD n .null).isNull then
      let action := if actionOf column = .replace then .abort else actionOf column
      return ← refuse action .notNull (title column)
  return some row

/-! ## Conditions -/

/-- Checks the conditions on the rows of a table. -/
def checkConditions (table : Table) (encoding : Encoding) (override? : Option OnConflict)
    (change? : Option Alteration) (row : StoredRow) : Run Bool := do
  let asked := table.checks.filter fun (condition, _) =>
    change?.all fun change => table.speaksOf change condition
  unless asked.isEmpty do Run.ofExcept (table.checkTypes row)
  for (condition, name) in asked do
    unless ← table.ownHolds encoding .check true row condition do
      if override? = some .ignore then return false
      Run.violate (override?.getD .abort) .check name
  return true

/-! ## Rows that make way -/

/-- What else is to be done when rows come into a table and go out of it. -/
structure Guard where
  /-- Whether a row that makes way is taken out on its own, not by the one that takes its place. -/
  isBound : Bool := false
  /-- Takes the row out on which a cursor rests. -/
  remove : Cursor → Run Unit
  /-- Looks at a row that is about to be stored. -/
  accept : StoredRow → Run Unit := fun _ => pure ()

/-- A row that is about to be stored: its place in the tree of the table, if that is known. -/
structure Pending where
  row : StoredRow
  /-- The row whose place it takes, if it is not new. -/
  old? : Option StoredRow := none
  cursor : Cursor
  order? : Option Ordering := none
  /-- Whether the row goes behind all others. -/
  appended : Bool := false

/-- Forgets the place of a row. -/
def Pending.forget (pending : Pending) : Pending :=
  let cursor := pending.cursor
  { pending with cursor := { root := cursor.root, isTable := cursor.isTable }, order? := none }

/-- Forgets the place of an entry. -/
def Opened.forget (opened : Opened) : Opened :=
  { opened with cursor := { root := opened.cursor.root, isTable := false }, order? := none }

/-! ## Rows that are in the way -/

/-- What becomes of something whose number or key was looked for. -/
inductive Finding (α : Type) where
  /-- It is stored; no other row is in its way. -/
  | free (found : α)
  /-- It is stored, after another row made way. -/
  | cleared (found : α)
  /-- It is left alone. -/
  | taken
  /-- A clause says what is done, of which the place is told, with the other row. -/
  | clash (clause : Nat) (other : Cursor)

/-- What is done about another row: an action, or what the clause of that place says. -/
abbrev Remedy : Type := OnConflict ⊕ Nat

/-- What is done about another row where something is looked for. -/
def remedyFor (override? own? : Option OnConflict) (clauses : List ClashClause)
    (target : ClashTarget) : Remedy :=
  match ClashClause.find? clauses target with
  | some (clause, place) => if clause.changes then .inr place else .inl .ignore
  | none => .inl ((override?.orElse fun _ => own?).getD .abort)

/-! ## Numbers that are in use -/

/-- Checks that no other row has a number. -/
def checkRowid (table : Table) (remedy : Remedy) (guard : Guard)
    (encoding : Encoding) (pending : Pending) : Run (Finding Pending) := do
  match pending.row.rowid? with
  | none => return .free pending
  | some rowid =>
    if pending.old?.any (·.rowid? = some rowid) then return .free pending
    let (cursor, order) ← (pending.cursor.seek rowid : Volume.Act _)
    if order ≠ .eq then return .free { pending with cursor, order? := some order }
    else
      match remedy with
      | .inr clause => return .clash clause cursor
      | .inl .replace =>
        if guard.isBound then
          guard.remove cursor
          return .cleared pending.forget
        else
          table.deleteEntries encoding cursor
          return .free { pending with cursor }
      | .inl action =>
        let (constraint, name) : Constraint × String :=
          match table.rowidColumn?.bind (table.columns[·]?) with
          | some column => (.primaryKey, column.name)
          | none => (.rowid, "rowid")
        match ← refuse (α := Unit) action constraint (table.name ++ "." ++ name) with
        | _ => return .taken

/-! ## Keys that are in use -/

/-- What is said of rows that are not unique. -/
def uniqueTitle (table : Table) (index : Index) : String :=
  let isExpression (column : IndexColumn) : Bool := match column.item with
    | .expression _ => true
    | _ => false
  let title (column : IndexColumn) : String :=
    let name := (column.item.column?.bind (table.columns[·]?)).map Column.name
    table.name ++ "." ++ name.getD "rowid"
  if index.keyColumns.any isExpression then "index '" ++ index.name ++ "'"
  else String.intercalate ", " (index.keyColumns.map title)

/-- The kind of constraint that an index keeps. -/
def constraintOf (index : Index) : Constraint :=
  if index.isPrimaryKey then .primaryKey else .unique

/-- Whether an entry of an index leads to a row. -/
def leadsTo (table : Table) (encoding : Encoding) (row : StoredRow) (index : Index)
    (entry : Cursor) : Run Bool := do
  if table.hasRowid then
    return row.rowid? = some (← (Record.rowid entry : Volume.Act Int))
  else
    match table.primaryKey? with
    | none => return false
    | some key =>
      let values ← keyBehind index key entry
      let own := key.keyColumns.map fun column =>
        ((column.item.column?.bind (row.values[·]?)).getD .null, column.key.collation)
      return (values.zip own).all fun (value, mine, collation) =>
        value.compareTo encoding collation mine = .eq

/-- Checks that no other row has the key of an index. Where another row is there it may have to
make way. -/
def checkKey (table : Table) (encoding : Encoding) (remedy : Remedy)
    (guard : Guard) (pending : Pending) (opened : Opened) : Run (Finding Opened) := do
  let index := opened.index
  match opened.entry? with
  | none => return .free opened
  | some values =>
    let keyValues := values.take index.keyWidth
    if !index.isUnique || keyValues.any Value.isNull then return .free opened
    let key : Key := { order := keyOrder encoding index, values := keyValues }
    let found ← (opened.cursor.seekRecord key.probe : Volume.Act _)
    if found.order ≠ .eq then
      return .free { opened with cursor := found.cursor, order? := some found.order }
    let isSelf ← match pending.old? with
      | none => pure false
      | some old => table.leadsTo encoding old index found.cursor
    if isSelf then return .free opened
    let other : Run (Option Cursor) := do
      let isRow := !table.hasRowid && index.isPrimaryKey
      if isRow then return some found.cursor
      else table.rowBehind encoding index found.cursor
    match remedy with
    | .inr clause =>
      match ← other with
      | some row => return .clash clause row
      | none => Run.fail .malformed
    | .inl .replace =>
      (← other).forM guard.remove
      return .cleared opened.forget
    | .inl action =>
      match ← refuse (α := Unit) action (constraintOf index) (table.uniqueTitle index) with
      | _ => return .taken

/-! ## All of them -/

/-- What becomes of a row that is about to be stored. -/
inductive Verdict where
  /-- It is stored, with cursors for its place and those of its entries. -/
  | fit (pending : Pending) (opened : List Opened)
  /-- It is left alone. -/
  | left
  /-- The clause of that place says what is done with the new row and the other one. -/
  | clash (clause : Nat) (row : StoredRow) (other : Cursor)

/-- How the number and the keys of a row are looked at. -/
structure Look where
  override? : Option OnConflict := none
  clauses : List ClashClause := []
  /-- Whether the number is looked at. -/
  isNumbered : Bool
  /-- Whether that is done last. -/
  isLast : Bool := false

namespace Look

/-- What is looked at in turn. -/
def turns (look : Look) (indexes : List String) : List ClashTarget :=
  let turns := ClashClause.turns look.clauses look.isNumbered indexes
  if look.isLast then turns.filter (· ≠ .number) ++ turns.filter (· = .number) else turns

end Look

/-- Checks that no other row has the number or the keys of a row, in turn. After a row made way, no
place is known any more. -/
def checkTurns (table : Table) (encoding : Encoding) (look : Look) (guard : Guard) :
    List ClashTarget → Pending → List Opened → Run Verdict
  | [], pending, opened => return .fit pending opened
  | .key name :: rest, pending, opened => do
    match opened.zipIdx.find? (·.1.index.name = name) with
    | none => checkTurns table encoding look guard rest pending opened
    | some (one, place) =>
      let one := { one with entry? := ← table.entryOf encoding pending.row one.index }
      let remedy := remedyFor look.override? one.index.onConflict? look.clauses (.key name)
      match ← table.checkKey encoding remedy guard pending one with
      | .free one => checkTurns table encoding look guard rest pending (opened.set place one)
      | .cleared one =>
        let opened := (opened.map Opened.forget).set place one
        checkTurns table encoding look guard rest pending.forget opened
      | .taken => return .left
      | .clash clause other => return .clash clause pending.row other
  | _ :: rest, pending, opened => do
    let remedy := remedyFor look.override? table.rowidConflict? look.clauses .number
    match ← table.checkRowid remedy guard encoding pending with
    | .free pending => checkTurns table encoding look guard rest pending opened
    | .cleared pending =>
      checkTurns table encoding look guard rest pending (opened.map Opened.forget)
    | .taken => return .left
    | .clash clause other => return .clash clause pending.row other

/-- Checks a row against all that its table asks. That its number is free is checked last if another
row has to make way for it and something else may yet be wrong. -/
def accept (table : Table) (encoding : Encoding) (override? : Option OnConflict)
    (change? : Option Alteration) (guard : Guard) (isNumbered : Bool) (opened : List Opened)
    (pending : Pending) (clauses : List ClashClause := []) : Run Verdict := do
  match ← table.checkNotNull encoding override? change? pending.row with
  | none => return .left
  | some row =>
    unless ← table.checkConditions encoding override? change? row do return .left
    let action := override?.getD (table.rowidConflict?.getD .abort)
    let isLast := action = .replace && override? ≠ some .replace && !opened.isEmpty &&
      clauses.isEmpty
    let look : Look := { override?, clauses, isNumbered, isLast }
    let start := look.turns (opened.map (·.index.name))
    let (first, rest) := (start.takeWhile (· = .number), start.dropWhile (· = .number))
    match ← table.checkTurns encoding look guard first { pending with row } opened with
    | .fit pending opened =>
      Run.ofExcept (table.checkTypes row)
      match ← table.checkTurns encoding look guard rest pending opened with
      | .fit pending opened =>
        return .fit pending (if isLast && isNumbered then opened.map Opened.forget else opened)
      | verdict => return verdict
    | verdict => return verdict

end Table
end AppCatalog
