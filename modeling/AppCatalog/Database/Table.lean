import AppCatalog.App
import AppCatalog.Database.Error

/-!
# The tables of the database

Rows of apps in increasing order of their row numbers, and the record of the migrations that
were applied. A row that the program adds goes behind all others as long as there is a number
behind them; rows that come from outside may go anywhere that is free.
-/

namespace AppCatalog

/-- A row of the table of apps. -/
structure Row where
  rowid : Int
  app : App
  deriving Repr, DecidableEq

/-- The table of apps. -/
structure AppTable where
  /-- The rows in increasing order of their row numbers. -/
  rows : List Row
  /-- Whether the index on identifiers exists. -/
  indexed : Bool
  deriving Repr, DecidableEq

namespace AppTable

/-- A table as it is created: no rows and no index. -/
def created : AppTable := ⟨[], false⟩

/-- The greatest row number there can be. -/
def maxRowid : Int := 0x7FFFFFFFFFFFFFFF

/-- The greatest row number that is taken by chance. -/
def maxRandomRowid : Int := 0x4000000000000000

/-- The greatest row number up to the limit of those by chance that is not in use. -/
def greatestFree (rows : List Row) : Int :=
  let isFree (n : Nat) : Bool := !rows.any (·.rowid = maxRandomRowid - n)
  maxRandomRowid - ((List.range (rows.length + 1)).find? isFree).getD rows.length

/-- The row number of a row that the program adds: one more than the greatest in use, and 1 in
an empty table. When the greatest possible number is in use it may be any free one up to a limit;
here it is the greatest of those. -/
def nextRowid (table : AppTable) : Int :=
  match table.rows.getLast? with
  | none => 1
  | some last => if last.rowid < maxRowid then last.rowid + 1 else greatestFree table.rows

/-- The rows with one more at its place. -/
def place (row : Row) : List Row → List Row
  | [] => [row]
  | first :: rows =>
    if row.rowid < first.rowid then row :: first :: rows else first :: place row rows

/-- The table with one more row; its row number and its id must be free. -/
def add (table : AppTable) (row : Row) : Except SqlError AppTable :=
  if table.rows.any (·.rowid = row.rowid) then .error (.violated .rowid "apps.rowid")
  else if table.rows.any (·.app.id = row.app.id) then .error (.violated .primaryKey "apps.id")
  else .ok { table with rows := place row table.rows }

/-- The table with one more app behind all others. -/
def append (table : AppTable) (app : App) : Except SqlError AppTable :=
  table.add ⟨table.nextRowid, app⟩

/-- The table without the row of that number. -/
def delete (table : AppTable) (rowid : Int) : AppTable :=
  { table with rows := table.rows.filter (·.rowid ≠ rowid) }

/-- The apps in row order. -/
def apps (table : AppTable) : List App :=
  table.rows.map (·.app)

end AppTable

/-- A migration that was applied, and when. -/
structure Applied where
  name : String
  appliedAt : Int
  deriving Repr, DecidableEq

/-- The content of a database: each table exists or not. -/
structure Database where
  /-- The record of applied migrations. -/
  migrations : Option (List Applied) := none
  /-- The stored apps. -/
  apps : Option AppTable := none
  deriving Repr, DecidableEq

namespace Database

/-- A database without tables. -/
def blank : Database := {}

/-- The table of apps, which must exist. -/
def appTable (db : Database) : Except SqlError AppTable :=
  match db.apps with
  | some table => .ok table
  | none => .error (.noSuchTable "apps")

/-- The listing, in row order. -/
def summaries (db : Database) : Except SqlError (List Summary) :=
  db.appTable.map fun table => table.apps.map App.summary

/-- The first app in row order with exactly that identifier. -/
def find (db : Database) (identifier : String) : Except SqlError (Option App) :=
  db.appTable.map fun table => table.apps.find? (·.identifier = identifier)

/-- The number of stored apps. -/
def count (db : Database) : Except SqlError Nat :=
  db.appTable.map fun table => table.rows.length

/-- The database with one more app behind all others. -/
def insert (db : Database) (app : App) : Except SqlError Database := do
  let table ← (← db.appTable).append app
  return { db with apps := some table }

end Database

/-! ## Edits from outside -/

/-- A change that another program makes to a database. -/
inductive Edit where
  /-- Drops the table of apps. -/
  | dropApps
  /-- Deletes every record of a migration. -/
  | forgetMigrations
  /-- Drops the table of migrations. -/
  | dropMigrations
  /-- Inserts a row with a chosen row number. -/
  | insertRow (row : Row)
  /-- Deletes the row of that number, if there is one. -/
  | deleteRow (rowid : Int)
  deriving Repr, DecidableEq

/-- The database after an edit. -/
def Database.edit (db : Database) : Edit → Except SqlError Database
  | .dropApps => do
    let _ ← db.appTable
    return { db with apps := none }
  | .forgetMigrations =>
    match db.migrations with
    | none => .error (.noSuchTable "_migrations")
    | some _ => .ok { db with migrations := some [] }
  | .dropMigrations =>
    match db.migrations with
    | none => .error (.noSuchTable "_migrations")
    | some _ => .ok { db with migrations := none }
  | .insertRow row => do
    let table ← (← db.appTable).add row
    return { db with apps := some table }
  | .deleteRow rowid => do
    let table ← db.appTable
    return { db with apps := some (table.delete rowid) }

end AppCatalog
