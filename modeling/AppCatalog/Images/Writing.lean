import AppCatalog.Database.Migration
import AppCatalog.Images.Reading

/-!
# Writing to database files

Storing an app, recording a migration, creating the tables and the index that the catalog needs,
and the edits that other programs make, on a database whatever its schema is. What is there already
is not created again, even if it is something else of that name.
-/

namespace AppCatalog

namespace Schema

/-! ## What is created -/

/-- The definition of the table of migrations. -/
def migrationsText : String :=
  "CREATE TABLE _migrations (\n" ++
  "                id INTEGER PRIMARY KEY,\n" ++
  "                name TEXT UNIQUE NOT NULL,\n" ++
  "                applied_at INTEGER NOT NULL\n" ++
  "            )"

/-- The definition of the table of apps. -/
def appsText : String :=
  "CREATE TABLE apps (\n" ++
  "    id TEXT PRIMARY KEY NOT NULL,\n" ++
  "    identifier TEXT NOT NULL,\n" ++
  "    name TEXT NOT NULL,\n" ++
  "    description TEXT NOT NULL,\n" ++
  "    source TEXT NOT NULL,\n" ++
  "    created_at INTEGER NOT NULL\n" ++
  ")"

/-- The name of the index on identifiers. -/
def identifierIndexName : String := "idx_apps_identifier"

/-- The definition of the index on identifiers. -/
def identifierIndexText : String := "CREATE INDEX idx_apps_identifier ON apps (identifier)"

/-- The name of the first index that a rule of a table asks for. -/
def ruleIndexName (table : String) : String := "sqlite_autoindex_" ++ table ++ "_1"

end Schema

/-- A statement that inserts a row of values into some columns. -/
structure Insert where
  inlet : Inlet
  heads : List Head
  editing : Editing

namespace Insert

/-- A statement that inserts a row into a table, and may give it back. -/
def ofColumns (schema : Schema) (name : String) (columns : List String)
    (givesBack : Bool := false) : Except SqlError Insert := do
  let site : Site := { schema }
  let (inlet, heads) ← site.inlet name columns givesBack
  let table := inlet.table
  let mayReplace := (inlet.isNumbered && table.rowidConflict? = some .replace) ||
    table.indexes.any (·.onConflict? = some .replace)
  let hasTrigger := table.triggers.any (·.event = .insert)
  let isSingle := !givesBack && !hasTrigger && !mayReplace
  let programs ← Rehearsal.ofInsertion site isSingle inlet heads
  return { inlet, heads, editing := { Editing.ofPrograms schema programs with isSingle } }

/-- Inserts a row with some values. The answer is the row as it was stored, if it was. -/
def run (statement : Insert) (values : List Value) : Run (Option StoredRow) :=
  let inlet := statement.inlet
  statement.editing.insert inlet none (fun _ _ _ => pure ())
    (Editing.newRow inlet.table inlet.columns values)

end Insert

namespace Sketch

/-! ## Storing -/

/-- The columns of an app. -/
def appColumns : List String :=
  ["id", "identifier", "name", "description", "source", "created_at"]

/-- The values of an app. -/
def appValues (encoding : Encoding) (app : App) : List Value :=
  let text := Value.ofString encoding
  [text app.id, text app.identifier, text app.name, text app.description, text app.source,
    .integer app.createdAt]

/-- Stores an app. The answer is what the row holds that was stored. -/
def insert (app : App) : Sketch App := fun schema => do
  let statement ← Insert.ofColumns schema "apps" appColumns true
  return .changing do
    match ← statement.run (appValues schema.encoding app) with
    | none => return { result := .error .rowNotFound }
    | some row =>
      let names := statement.heads.map Head.name
      let answer : AnswerRow := { encoding := schema.encoding, names, values := row.values }
      return { result := answer.app, isEarly := true }

/-- Records a migration as applied. -/
def record (applied : Applied) : Sketch Unit := fun schema => do
  let statement ← Insert.ofColumns schema "_migrations" ["name", "applied_at"]
  return .changing do
    let values := [Value.ofString schema.encoding applied.name, .integer applied.appliedAt]
    discard (statement.run values)
    return .of ()

/-! ## Creating -/

/-- Creates a table unless there is one, or a view, of that name. -/
def createTable (name text : String) : Sketch Unit := fun schema => do
  if (schema.table? name).isSome then return .none
  if schema.hasIndex name then
    throw (.senseless ("there is already an index named " ++ name))
  return .defining do
    (schema.createTable name text [Schema.ruleIndexName name] : Volume.Act Unit)
    return .of ()

/-- Creates the table of migrations unless it is there. -/
def createMigrations : Sketch Unit := createTable "_migrations" Schema.migrationsText

/-- Creates the table of apps unless it is there. -/
def createApps : Sketch Unit := createTable "apps" Schema.appsText

/-- Creates the index on identifiers unless it is there. -/
def createIndex : Sketch Unit := fun schema => do
  let name := Schema.identifierIndexName
  let table ← match schema.table? "apps" with
    | some table => pure table
    | none => throw (.noSuchTable "main.apps")
  if table.view?.isSome then throw (.senseless "views may not be indexed")
  if (schema.table? name).isSome then
    throw (.senseless ("there is already a table named " ++ name))
  if schema.hasIndex name then return .none
  let term : IndexTerm := { expression := .columnNamed "identifier" }
  let index ← (table.indexOfDefinition schema.rowFormat 0 name false [term] none).mapError
    .senseless
  Table.checkCollations (Table.collationsOf index)
  return .defining do
    schema.createIndex table index Schema.identifierIndexText
    return .of ()

/-- A statement of the migration. -/
def ofStatement : Statement → Sketch Unit
  | .createMigrations => createMigrations
  | .createApps => createApps
  | .createIndex => createIndex
  | .record applied => record applied

/-! ## Edits from outside -/

/-- Deletes the rows of a table before it is dropped, if others may refer to them. No trigger is
fired, and none of them may be referred to in the end. -/
def abandon (schema : Schema) (table : Table) : Run Unit := do
  unless (schema.referencesTo table).isEmpty do
    let programs ← Run.ofExcept (Rehearsal.ofFollowUps schema table)
    let editing := Editing.within schema programs true Editing.maxNested []
    for row in ← table.allRows schema.encoding do editing.delete table row
    if 0 < (← getThe Progress).loose.now then Run.fail (.violated .foreignKey "")

/-- Drops a table. -/
def dropTable (name : String) : Sketch Unit := fun schema => do
  let table ← schema.existing name
  if table.view?.isSome then
    throw (.senseless ("use DROP VIEW to delete view " ++ table.name))
  return .defining do
    abandon schema table
    (schema.dropTable table : Volume.Act Unit)
    return .of ()

/-- A statement that deletes rows of a table: those that satisfy a condition, if there is one. -/
def deletion (schema : Schema) (name : String) (condition? : Option Expression)
    (parameter : Value) : Except SqlError (Table × Run Unit) := do
  let site : Site := { schema }
  let table ← site.existing name
  let heads ← Site.headsOf schema table
  table.checkWritable .delete
  let (query, preparation) ← Preparing.alone do
    let source ← Site.target name table heads
    site.chosen source table condition?
  if table.view?.isNone then Table.checkIndexes table.indexes
  let programs ← Rehearsal.ofDeletion schema table heads
  let machine ← Machine.ofPreparation schema parameter preparation
  let editing := Editing.ofPrograms schema programs
  return (table, editing.perform machine [] none (.delete table query))

/-- Takes all rows out of a table at once. -/
def clearTrees (table : Table) : Run Unit := do
  let roots := if table.hasRowid then [table.root] else []
  for root in roots ++ table.indexes.map (·.root) do
    (Volume.clearTree root : Volume.Act Unit)

/-- Deletes all rows of a table. Its trees are cleared if nothing else happens to the rows. -/
def clear (name : String) : Sketch Unit := fun schema => do
  let (table, delete) ← deletion schema name none .null
  let isPlain :=
    table.view?.isNone && !table.triggers.any (·.event = .delete) && !schema.isTied table
  return .changing do
    if isPlain then clearTrees table else delete
    return .of ()

/-- Inserts a row with a chosen number. -/
def insertRow (row : Row) : Sketch Unit := fun schema => do
  let statement ← Insert.ofColumns schema "apps" ("rowid" :: appColumns)
  return .changing do
    discard (statement.run (Value.integer row.rowid :: appValues schema.encoding row.app))
    return .of ()

/-- Deletes the row of that number, if there is one. -/
def deleteRow (rowid : Int) : Sketch Unit := fun schema => do
  let condition := Expression.binary .eq (.columnNamed "rowid") .variable
  let (table, delete) ← deletion schema "apps" (some condition) (.integer rowid)
  let isPlain := table.isPlain && !table.triggers.any (·.event = .delete) && !schema.isTied table
  return .changing do
    if isPlain then
      let cursor ← (Volume.openTree table.root table.hasRowid : Volume.Act _)
      let (cursor, order) ← (cursor.seek rowid : Volume.Act _)
      if order = .eq then
        discard (table.openAll : Volume.Act _)
        table.deleteAt schema.encoding cursor
    else delete
    return .of ()

/-- An edit from outside. -/
def ofEdit : Edit → Sketch Unit
  | .dropApps => dropTable "apps"
  | .forgetMigrations => clear "_migrations"
  | .dropMigrations => dropTable "_migrations"
  | .insertRow row => insertRow row
  | .deleteRow rowid => deleteRow rowid

end Sketch
end AppCatalog
