import AppCatalog.Changes.Counter
import AppCatalog.Query.SortKey

/-!
# Creating and dropping tables

A table that is created gets a tree, and a row in the list of definitions; so does an index. Trees
of indexes that exist before their rows do are filled in order. A table that is dropped goes with
its indexes and triggers, and where the last tree of a file moves to the place of a dropped one the
list is told.
-/

namespace AppCatalog
namespace Schema

/-! ## The list of definitions -/

/-- A row of the list of definitions. -/
def listed (schema : Schema) (type name table : String) (root : Nat) (sql? : Option String) :
    Block :=
  let text (value : String) : Value := .ofString schema.encoding value
  Record.ofValues schema.rowFormat
    [text type, text name, text table, .integer root, (sql?.map text).getD .null]

/-- A row that stands in for a definition until it is known. -/
def placeholder : Block := #[6, 0, 0, 0, 0, 0]

/-- A cursor for the list of definitions. -/
def listCursor : Cursor := { root := 1, isTable := true }

/-- The number of the next row of the list, with the cursor that found it. -/
def nextRow (cursor : Cursor) : Volume.Act (Int × Cursor) := do
  let cursor ← cursor.last
  if !cursor.isOn then return (1, cursor)
  else
    let (greatest, cursor) ← cursor.key
    if greatest < Value.maxInteger then return (greatest + 1, cursor) else throw .malformed

/-- Adds a row to the list. The answer is its number. -/
def addListed (record : Block) : Volume.Act Int := do
  let (rowid, cursor) ← nextRow listCursor
  discard (Volume.insertRow cursor rowid record none true)
  return rowid

/-- Counts a change of the schema. -/
def countChange (cookie : Nat) : Volume.Act Unit :=
  Volume.setHeader Layout.schemaCookieAt 4 ((cookie + 1) % (Block.maxWord + 1))

/-- The number of changes of the schema so far. -/
def cookie : Volume.Act Nat := Volume.header Layout.schemaCookieAt 4

/-- Whether a value is a text that is the same as another one. -/
def isText (encoding : Encoding) (text : String) (value : Value) : Bool :=
  (Affinity.text.apply encoding value).compareTo encoding .binary (.ofString encoding text) = .eq

/-- The value of a column of the list, of the row on which a cursor rests. -/
def listedValue (cursor : Cursor) (n : Nat) : Volume.Act Value :=
  return (← Record.value? cursor n).getD .null

/-- Whether a column of the list holds a text, in the row on which a cursor rests. -/
def saysText (schema : Schema) (n : Nat) (text : String) (cursor : Cursor) : Volume.Act Bool := do
  let value ← listedValue cursor n
  return !value.isNull && isText schema.encoding text value

/-- Whether the row of the list on which a cursor rests is about a table or one of its indexes. -/
def isAbout (schema : Schema) (table : String) (cursor : Cursor) : Volume.Act Bool := do
  if ← schema.saysText 2 table cursor then
    let type ← listedValue cursor 0
    return !type.isNull && !isText schema.encoding "trigger" type
  else return false

/-- Whether the row of the list on which a cursor rests defines something of a type and a name. -/
def isNamed (schema : Schema) (type name : String) (cursor : Cursor) : Volume.Act Bool := do
  if ← schema.saysText 1 name cursor then schema.saysText 0 type cursor else return false

/-- Reads the rows of the list that satisfy a test, from the one on which a cursor rests. The answer
is how many there are. -/
def readListed (test : Cursor → Volume.Act Bool) :
    (rounds : Nat) → Schema → Cursor → Volume.Act Nat
  | 0, _, _ => throw .malformed
  | rounds + 1, schema, cursor => do
    if !cursor.isOn then return 0
    else if ← test cursor then
      let entry ← entryAt schema.encoding cursor
      let schema ← MonadExcept.ofExcept (schema.addEntry (← get).count entry)
      return (← readListed test rounds schema (← cursor.next)) + 1
    else readListed test rounds schema (← cursor.next)

/-- Checks that the list now has the rows that satisfy a test, and that they make sense. -/
def checkListed (schema : Schema) (test : Cursor → Volume.Act Bool) : Volume.Act Unit := do
  let count ← readListed test Cursor.maxVisits schema (← listCursor.first)
  if count = 0 then throw .malformed

/-! ## Creating -/

/-- Creates a table with an index for each of some of its rules. -/
def createTable (schema : Schema) (name sql : String) (indexes : List String) :
    Volume.Act Unit := do
  let cookie ← cookie
  if (← Volume.header Layout.rowFormatAt 4) = 0 then
    Volume.setHeader Layout.rowFormatAt 4 maxRowFormat
    Volume.setHeader Layout.encodingAt 4 schema.encoding.code
  let root ← Volume.createTree true
  let rowid ← addListed placeholder
  for index in indexes do
    let root ← Volume.createTree false
    discard (addListed (schema.listed "index" index name root none))
  let (cursor, order) ← listCursor.seek rowid
  if order = .eq then
    let record := schema.listed "table" name name root (some sql)
    discard (Volume.insertRow cursor rowid record)
  countChange cookie
  schema.checkListed (schema.isAbout name)

/-- The entries that an index gets for the rows from the one on which a cursor rests. -/
def entriesFrom (schema : Schema) (table : Table) (index : Index) :
    (rounds : Nat) → Cursor → Array (List Value) → Run (Array (List Value))
  | 0, _, _ => Run.fail .malformed
  | rounds + 1, cursor, entries => do
    if !cursor.isOn then return entries
    let entries := match ← table.entryAt schema.encoding cursor index with
      | some values => entries.push values
      | none => entries
    entriesFrom schema table index rounds (← (cursor.next : Volume.Act Cursor)) entries

/-- Whether an entry of an index comes before another one. -/
def entryBefore (encoding : Encoding) (index : Index) (a b : List Value) : Bool :=
  let key (values : List Value) : List SortKey :=
    values.zipWith (fun value column =>
      { value, collation := column.key.collation, descending := column.key.descending
        nullsFirst := !column.key.descending : SortKey }) index.columns
  SortKey.isBefore encoding (key a) (key b)

/-- Fills an index with entries in their order. -/
def fill (schema : Schema) (table : Table) (index : Index) :
    Cursor → List (List Value) → Volume.Act Unit
  | _, [] => return
  | cursor, values :: rest => do
    let cursor ← if cursor.isOn then pure cursor else cursor.last
    let record := Record.ofValues schema.rowFormat values
    let probe := (table.entryKey schema.encoding index values).probe
    fill schema table index (← Volume.insertRecord cursor probe record (some .lt)) rest

/-- Creates an index on a table. -/
def createIndex (schema : Schema) (table : Table) (index : Index) (sql : String) : Run Unit := do
  let before ← (cookie : Volume.Act Nat)
  let root ← (Volume.createTree false : Volume.Act Nat)
  let record := schema.listed "index" index.name table.name root (some sql)
  discard (addListed record : Volume.Act Int)
  let rows ← (Volume.openTree table.root table.hasRowid : Volume.Act Cursor)
  let first ← (rows.first : Volume.Act Cursor)
  let entries ← schema.entriesFrom table index Cursor.maxVisits first #[]
  let sorted := entries.toList.mergeSort (entryBefore schema.encoding index)
  (schema.fill table index { root, isTable := false } sorted : Volume.Act Unit)
  (countChange before : Volume.Act Unit)
  (schema.checkListed (schema.isNamed "index" index.name) : Volume.Act Unit)

/-! ## Dropping -/

/-- Goes through the rows of a table from the one on which a cursor rests, and deletes those that
satisfy a test. -/
def deleteWhere (test : Cursor → Volume.Act Bool) :
    (rounds : Nat) → Cursor → Volume.Act Unit
  | 0, _ => throw .malformed
  | rounds + 1, cursor => do
    if !cursor.isOn then return
    let cursor ← if ← test cursor then Volume.deleteCell cursor true else pure cursor
    deleteWhere test rounds (← cursor.next)

/-- Deletes the definitions of a table and its indexes. -/
def unlist (schema : Schema) (table : Table) : Volume.Act Unit := do
  deleteWhere (schema.isAbout table.name) Cursor.maxVisits (← listCursor.first)

/-- Deletes the definition of a trigger. -/
def unlistTrigger (schema : Schema) (trigger : Trigger) : Volume.Act Unit := do
  deleteWhere (schema.isNamed "trigger" trigger.name) Cursor.maxVisits (← listCursor.first)

/-- The numbers of the rows of the list that name a root, from the one on which a cursor rests. -/
def rowsWithRoot (encoding : Encoding) (root : Nat) :
    (rounds : Nat) → Cursor → Volume.Act (List Int)
  | 0, _ => throw .malformed
  | rounds + 1, cursor => do
    if !cursor.isOn then return []
    let found := Affinity.integer.apply encoding (← listedValue cursor 3)
    let isHere := !found.isNull && found.compareTo encoding .binary (.integer root) = .eq
    let (rowid, cursor) ← cursor.key
    let rest ← rowsWithRoot encoding root rounds (← cursor.next)
    return if isHere then rowid :: rest else rest

/-- Tells the list that a tree has another root now. -/
def retellRoot (schema : Schema) (old new : Nat) : Volume.Act Unit := do
  let rowids ← rowsWithRoot schema.encoding old Cursor.maxVisits (← listCursor.first)
  rowids.foldlM (fun cursor rowid => do
    let (cursor, order) ← cursor.seek rowid
    if order ≠ .eq then return cursor
    let value (n : Nat) : Volume.Act Value := listedValue cursor n
    let record := Record.ofValues schema.rowFormat
      [← value 0, ← value 1, ← value 2, .integer new, ← value 4]
    Volume.insertRow cursor rowid record) listCursor |> discard

/-- The roots of the trees of a table, the greatest first. -/
def rootsOf (table : Table) : List Nat :=
  let roots := table.root :: table.indexes.map (·.root)
  ((roots.filter (· ≠ 0)).mergeSort fun a b => b ≤ a).eraseDups

/-- Drops the trees with some roots. -/
def dropTrees (schema : Schema) (roots : List Nat) : Volume.Act Unit := do
  for root in roots do
    if let some moved ← Volume.dropTree root then schema.retellRoot moved root

/-- Forgets the greatest number of a table whose rows are counted. -/
def forgetCounter (schema : Schema) (counters table : Table) : Volume.Act Unit := do
  let name := Value.ofString schema.encoding table.name
  let test (cursor : Cursor) : Volume.Act Bool := do
    let found ← counters.storedValue schema.encoding cursor 0
    return found.compareTo schema.encoding .binary name = .eq
  deleteWhere test Cursor.maxVisits (← counters.cursor.first)

/-- Drops a table. -/
def dropTable (schema : Schema) (table : Table) : Volume.Act Unit := do
  let cookie ← cookie
  for trigger in table.triggers do
    schema.unlistTrigger trigger
    countChange cookie
  if table.isCounted then
    match schema.tables.find? (·.name = countersName) with
    | some counters => schema.forgetCounter counters table
    | none => throw (.noSuchTable ("main." ++ countersName))
  schema.unlist table
  schema.dropTrees (rootsOf table)
  countChange cookie

end Schema
end AppCatalog
