import AppCatalog.Images.Image

/-!
# Commands

What a store asks of a database: to answer, to change, or both. A command says what it does to the
tables of the catalog, and what it does to a file that somebody else wrote, whatever is in it.

On tables a command is refused if it changes something and nothing may be written. A command that
finds no table is not even begun, so a missing table is reported first. A command that is made only
where something is missing asks for nothing where nothing is; every other one that may change
something asks for the right to write before it looks at a row.
-/

namespace AppCatalog

/-- What a store asks of a database. -/
structure Command (α : Type) where
  /-- The answer of a database, and the database after it. -/
  onTables : Database → Except SqlError (α × Database)
  /-- Whether the right to write is asked for even where the database stays as it is. -/
  insists : Bool := false
  /-- Whether a file is written even where the database stays as it is. -/
  rewrites : Bool := false
  /-- What is done to a file that somebody else wrote. -/
  onImage : Image.Act α

namespace Command

/-- The answer and the database after it, if there is the right to write or none is asked for. -/
def run {α : Type} (command : Command α) (mayWrite : Bool) (db : Database) :
    Except SqlError (α × Database) :=
  match command.onTables db with
  | .error (.noSuchTable name) => .error (.noSuchTable name)
  | .error cause => if mayWrite then .error cause else .error .readOnly
  | .ok (answer, after) =>
    if mayWrite || (!command.insists && after = db) then .ok (answer, after)
    else .error .readOnly

/-- With the right to write a command does what it says. -/
theorem run_true {α : Type} (command : Command α) (db : Database) :
    command.run true db = command.onTables db := by
  unfold run
  split <;> simp_all

/-! ## Questions -/

/-- A command that only asks. -/
def question {α : Type} (query : Database → Except SqlError α) (sketch : Sketch α) :
    Command α where
  onTables db := (query db).map (·, db)
  onImage := Image.run sketch

/-- A question changes nothing, and needs no right to write. -/
theorem run_question {α : Type} (query : Database → Except SqlError α) (sketch : Sketch α)
    (db : Database) : (question query sketch).run true db = (query db).map (·, db) := by
  simp [run_true, question]

/-- Asks for all apps without their sources. -/
def listing : Command (List Summary) := question Database.summaries Sketch.listing

/-- Asks for the first app with exactly that identifier. -/
def find (identifier : String) : Command (Option App) :=
  question (·.find identifier) (Sketch.find identifier)

/-- Asks for the number of apps. -/
def count : Command Nat := question Database.count Sketch.count

/-- Asks whether the schema is recorded as applied. -/
def checkMigrated : Command Bool :=
  question Database.checkMigrated (Sketch.isRecorded schemaName)

/-! ## Changes -/

/-- Adds an app behind all others. The answer is the app as it was stored. -/
def insert (app : App) : Command App where
  onTables db := (db.insert app).map (app, ·)
  insists := true
  onImage := Image.run (Sketch.insert app)

/-- Makes a change from outside. Records are not forgotten one by one: their table is cleared, even
if it is empty. -/
def edit (edit : Edit) : Command Unit where
  onTables db := (db.edit edit).map ((), ·)
  insists := true
  rewrites := edit = .forgetMigrations
  onImage := Image.run (Sketch.ofEdit edit)

/-- Makes statements where something is missing. -/
def ensure (statements : List Statement) : Command Unit where
  onTables db := (db.runAll statements).map ((), ·)
  onImage := statements.forM fun statement => Image.run (Sketch.ofStatement statement)

/-- Records a migration as applied. -/
def record (applied : Applied) : Command Unit where
  onTables db := (Statement.run db (.record applied)).map ((), ·)
  insists := true
  onImage := Image.run (Sketch.record applied)

/-- Brings the database to the current schema. -/
def migrate (now : Int) : Command Unit where
  onTables db := (db.migrate now).map ((), ·)
  onImage := Image.migrate now

end Command
end AppCatalog
