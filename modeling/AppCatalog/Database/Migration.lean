import AppCatalog.Database.Table

/-!
# Migration

Bringing a database to the current schema: a list of statements, each of which takes effect on
its own. The list depends on whether the schema is recorded as applied, so a run that is cut off
anywhere can be taken up again.
-/

namespace AppCatalog

/-- The name under which the schema is recorded. -/
def schemaName : String := "001_initial_schema"

/-- A statement of the migration. -/
inductive Statement where
  /-- Creates the table of migrations unless it exists. -/
  | createMigrations
  /-- Creates the table of apps unless it exists. -/
  | createApps
  /-- Creates the index on identifiers unless it exists. -/
  | createIndex
  /-- Records a migration as applied. -/
  | record (applied : Applied)
  deriving Repr, DecidableEq

/-- The database after a statement. -/
def Statement.run (db : Database) : Statement → Except SqlError Database
  | createMigrations => .ok { db with migrations := some (db.migrations.getD []) }
  | createApps => .ok { db with apps := some (db.apps.getD .created) }
  | createIndex => do
    let table ← db.appTable
    return { db with apps := some { table with indexed := true } }
  | record applied =>
    match db.migrations with
    | none => .error (.noSuchTable "_migrations")
    | some done => .ok { db with migrations := some (done ++ [applied]) }

namespace Database

/-- The database after a list of statements, which end with the first that fails. -/
def runAll (db : Database) (statements : List Statement) : Except SqlError Database :=
  statements.foldlM Statement.run db

/-- Whether the schema is recorded as applied. -/
def isMigrated (db : Database) : Bool :=
  (db.migrations.getD []).any (·.name = schemaName)

/-- Looks up whether the schema is recorded as applied, in a table that must exist. -/
def checkMigrated (db : Database) : Except SqlError Bool :=
  match db.migrations with
  | none => .error (.noSuchTable "_migrations")
  | some _ => .ok db.isMigrated

/-- The statements of a migration that starts from this database. -/
def migrationSteps (db : Database) (now : Int) : List Statement :=
  if db.isMigrated then [.createMigrations]
  else [.createMigrations, .createApps, .createIndex, .record ⟨schemaName, now⟩]

/-- The database after a migration. -/
def migrate (db : Database) (now : Int) : Except SqlError Database :=
  db.runAll (db.migrationSteps now)

end Database
end AppCatalog
