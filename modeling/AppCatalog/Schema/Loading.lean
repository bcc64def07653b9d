import AppCatalog.Schema.Building
import AppCatalog.Schema.Origin

/-!
# Reading the schema

A database keeps the definitions of its tables, indexes, views and triggers in a table of its own,
whose tree starts on the first page. The definitions are read one by one, in the order in which
they are listed; the first that makes no sense is reported with its name.
-/

namespace AppCatalog

/-- The tables of a database, and how it writes texts and rows. -/
structure Schema where
  encoding : Encoding := .utf8
  rowFormat : Nat := 1
  tables : List Table

/-- What the list of definitions says about one of them. -/
structure SchemaEntry where
  type? : Option String
  name? : Option String
  table? : Option String
  root? : Option String
  sql? : Option String

namespace Schema

/-! ## The table of definitions -/

/-- The name of the table of definitions. -/
def listName : String := "sqlite_master"

/-- The table of definitions. -/
def list : Table :=
  let column (name type : String) : Column := { name, type, affinity := Affinity.ofType type }
  { name := listName
    root := 1
    columns := [column "type" "text", column "name" "text", column "tbl_name" "text",
      column "rootpage" "int", column "sql" "text"] }

/-- A schema without tables but that of the definitions. -/
def blank : Schema := { tables := [list] }

/-- The table or the view of that name. -/
def table? (schema : Schema) (name : String) : Option Table :=
  let name := if name.toLower = "sqlite_schema" then listName else name
  schema.tables.find? (Table.sameName ·.name name)

/-- The table that has an index of that name. -/
def tableOfIndex? (schema : Schema) (name : String) : Option Table :=
  schema.tables.find? (·.indexes.any (Table.sameName ·.name name))

/-- Whether there is an index of that name. -/
def hasIndex (schema : Schema) (name : String) : Bool := (schema.tableOfIndex? name).isSome

/-- Whether there is a trigger of that name. -/
def hasTrigger (schema : Schema) (name : String) : Bool :=
  schema.tables.any (·.triggers.any (Table.sameName ·.name name))

/-- The schema with another table in place of the one of its name. -/
def setTable (schema : Schema) (table : Table) : Schema :=
  { schema with tables := schema.tables.map fun other =>
      if Table.sameName other.name table.name then table else other }

/-! ## Definitions -/

/-- Whether a name belongs to the database itself. -/
def isReserved (name : String) : Bool := Affinity.startsWith "sqlite_".toList name.toLower.toList

/-- Checks that a definition is about what the list says. -/
def checkEntry (entry : SchemaEntry) (type name table : String) : Except String Unit := do
  let agrees (said? : Option String) (found : String) : Bool := said?.any (Table.sameName found)
  unless agrees entry.type? type && agrees entry.name? name && agrees entry.table? table do
    throw ""

/-- Checks that the name of a table or a view is free, which is written like that. -/
def checkFree (schema : Schema) (name text : String) : Except String Unit := do
  if let some table := schema.table? name then
    let kind := if table.view?.isSome then "view " else "table "
    throw (kind ++ text ++ " already exists")
  if schema.hasIndex name then throw ("there is already an index named " ++ name)

/-- Checks that the name of what is defined stands alone: the list belongs to one database. -/
def checkTitle (title : Title) : Except String Unit := do
  if title.isQualified then throw "corrupt database"

/-- Checks that something speaks of its own database only. -/
def checkDatabases (kind : String) (title : Title) (databases : List String) :
    Except String Unit := do
  if let some other := foreignDatabase? databases then
    throw (kind ++ " " ++ title.text ++ " cannot reference objects in database " ++ other)

/-- Checks that there can be a trigger like that. -/
def checkTrigger (schema : Schema) (entry : SchemaEntry) (title : Title) (schema? : Option String)
    (table : String) (time : TriggerTime) : Except String Unit := do
  checkTitle title
  checkDatabases "trigger" title schema?.toList
  let found ← match schema.table? table with
    | some found => pure found
    | none => throw ("no such table: main." ++ table)
  checkEntry entry "trigger" title.name found.name
  if schema.hasTrigger title.name then throw ("trigger " ++ title.text ++ " already exists")
  if isReserved found.name then throw "cannot create trigger on system table"
  match time, found.view? with
  | .before, some _ => throw ("cannot create BEFORE trigger on view: " ++ table)
  | .after, some _ => throw ("cannot create AFTER trigger on view: " ++ table)
  | .instead, none => throw ("cannot create INSTEAD OF trigger on table: " ++ table)
  | _, _ => return

/-- Objects to what a definition of something with that root starts with. What starts where the
table of definitions starts is that table, whatever its definition calls it. -/
def checkHead (schema : Schema) (entry : SchemaEntry) (root : Nat) :
    DefinitionHead → Except String Unit
  | .table title => do
    if root ≠ 1 then checkTitle title
    let name := if root = 1 then listName else title.name
    checkEntry entry "table" name name
    schema.checkFree name title.text
  | .trigger title schema? table time => schema.checkTrigger entry title schema? table time

/-- Whether an index has the root of another one on its table. -/
def sharesRoot (table : Table) (index : Index) : Bool :=
  table.indexes.any fun other => other.name ≠ index.name && other.root = index.root

/-- The schema with what a definition says. -/
def define (schema : Schema) (entry : SchemaEntry) (root : Nat) (definition : Definition) :
    Except String Schema := do
  match definition with
  | .table name columns rules options =>
    let table ← Table.ofDefinition schema.rowFormat root name columns rules options
    return { schema with tables := schema.tables ++ [table] }
  | .view title columns? selection hasParameter =>
    if hasParameter then throw "parameters are not allowed in views"
    checkTitle title
    checkEntry entry "view" title.name title.name
    schema.checkFree title.name title.text
    checkDatabases "view" title selection.databases
    if root ≠ 0 then throw ""
    let view : Table := { name := title.name, columns := [], view? := some (columns?, selection) }
    return { schema with tables := schema.tables ++ [view] }
  | .index title table isUnique terms condition? =>
    checkTitle title
    let name := title.name
    let found ← match schema.table? table with
      | some found => pure found
      | none => throw ("no such table: main." ++ table)
    if found.view?.isSome then throw "views may not be indexed"
    checkEntry entry "index" name found.name
    if schema.hasIndex name then throw ("index " ++ name ++ " already exists")
    let index ← found.indexOfDefinition schema.rowFormat root name isUnique terms condition?
    if sharesRoot found index then throw "invalid rootpage"
    return schema.setTable (found.addIndex index)
  | .module title module arguments =>
    let table : Table := { name := title.name, columns := [], module? := some (module, arguments) }
    return { schema with tables := schema.tables ++ [table] }
  | .trigger title table time event condition? steps =>
    let databases := steps.flatMap TriggerStep.databases
      ++ Expression.optionDatabases condition?
    checkDatabases "trigger" title databases
    let found := (schema.table? table).getD list
    let trigger : Trigger := { name := title.name, time, event, condition?, steps }
    return schema.setTable { found with triggers := trigger :: found.triggers }

/-! ## Entries of the list -/

/-- The number of a page that a text writes. -/
def pageOf? (text : String) : Option Nat :=
  let cs := text.toList
  if cs.isEmpty || !cs.all Char.isDigit then none
  else
    let value := cs.foldl (fun value c => value * 10 + (c.toNat - 48)) 0
    if value ≤ Block.maxWord + 1 then some (value % (Block.maxWord + 1)) else none

/-- The schema with the root of an index that a rule of its table asks for. -/
def placeIndex (schema : Schema) (pages : Nat) (name : String) (root? : Option Nat) :
    Except String Schema := do
  let table ← match schema.tableOfIndex? name with
    | some table => pure table
    | none => throw "orphan index"
  let root := root?.getD 0
  let placed (index : Index) : Index :=
    if Table.sameName index.name name then { index with root } else index
  let table := { table with indexes := table.indexes.map placed }
  let isShared := table.indexes.any fun index =>
    Table.sameName index.name name && sharesRoot table index
  if root < 2 || pages < root || isShared then throw "invalid rootpage"
  return schema.setTable table

/-- The schema with what an entry of the list says. -/
def addEntry (schema : Schema) (pages : Nat) (entry : SchemaEntry) : Except SqlError Schema :=
  let complain {α : Type} (detail : String) : Except SqlError α :=
    .error (.malformedSchema (entry.name?.getD "?") detail)
  let isDefinition := entry.sql?.any fun sql => (sql.toLower.take 2).toString = "cr"
  match entry.root? with
  | none => complain ""
  | some text =>
    if isDefinition then
      match pageOf? text with
      | none => complain "invalid rootpage"
      | some root =>
        if pages < root then complain "invalid rootpage"
        else
          let result := do
            let definition ← Definition.ofText (entry.sql?.getD "") (schema.checkHead entry root)
            schema.define entry root definition
          match result with
          | .ok schema => .ok schema
          | .error detail => complain detail
    else
      match entry.name? with
      | none => complain ""
      | some name =>
        if (entry.sql?.getD "") ≠ "" then complain ""
        else
          match schema.placeIndex pages name (pageOf? text) with
          | .ok schema => .ok schema
          | .error detail => complain detail

/-! ## Reading the list -/

/-- The text of a value, cut at its first zero byte. -/
def textOf (encoding : Encoding) (value : Value) : Option String :=
  let shown (bytes : Block) : String :=
    Utf8.decodeLossy ((encoding.toUtf8 bytes).toList.takeWhile (· != 0))
  match value with
  | .null => none
  | .text bytes => some (shown bytes)
  | .blob bytes => some (shown bytes)
  | value => some value.shown

/-- The entry on which a cursor rests. -/
def entryAt (encoding : Encoding) (cursor : Cursor) : Volume.Act SchemaEntry := do
  let text (n : Nat) : Volume.Act (Option String) := do
    return textOf encoding ((← Record.value? cursor n).getD .null)
  return {
    type? := ← text 0, name? := ← text 1, table? := ← text 2, root? := ← text 3
    sql? := ← text 4 }

/-- Reads entries from the one on which a cursor rests. -/
def readFrom (schema : Schema) : (rounds : Nat) → Cursor → Volume.Act Schema
  | 0, _ => throw .malformed
  | rounds + 1, cursor => do
    if !cursor.isOn then return schema
    let entry ← entryAt schema.encoding cursor
    let schema ← MonadExcept.ofExcept (schema.addEntry (← get).count entry)
    schema.readFrom rounds (← cursor.next)

/-- The greatest number of a format of rows that is understood. -/
def maxRowFormat : Nat := 4

/-- Reads the schema. -/
def load : Volume.Act Schema := do
  let encoding := (Encoding.ofCode? (← Volume.header Layout.encodingAt 4)).getD .utf8
  let rowFormat := max 1 ((← Volume.header Layout.rowFormatAt 4) % 0x100)
  if maxRowFormat < rowFormat then throw .unsupportedFormat
  let schema := { blank with encoding, rowFormat }
  schema.readFrom Cursor.maxVisits (← ({ root := 1, isTable := true : Cursor }).first)

end Schema
end AppCatalog
