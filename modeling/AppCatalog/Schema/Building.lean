import AppCatalog.Schema.Reference

/-!
# From definitions to tables

What a definition of a table means: its columns, its key, and the indexes that keep rows unique.
Two rules that ask for the same index share it. Whatever makes no sense is refused with what is
said about it.
-/

namespace AppCatalog
namespace Table

/-! ## Indexes -/

/-- The column of a table, or the expression, that a term of an index orders by. Only an index
that is created by itself can order by expressions. -/
def itemOf (table : Table) (isRule : Bool) (term : IndexTerm) : Except String IndexItem := do
  let expression := term.expression.withoutCollation
  let title? := match expression with
    | .column none name _ => some name
    | .text name => some name
    | _ => none
  match title?.bind table.find? with
  | some n => return .column n
  | none =>
    let expression : Expression := match expression with
      | .text name => .column none name false
      | other => other
    table.check .indexed expression
    if isRule then throw "expressions prohibited in PRIMARY KEY and UNIQUE constraints"
    return .expression expression

/-- The column of an index that a term says. Rows of old formats are ordered forwards only. -/
def indexColumn (table : Table) (rowFormat : Nat) (isRule : Bool) (term : IndexTerm) :
    Except String IndexColumn := do
  let item ← table.itemOf isRule term
  let own := (item.column?.bind (table.columns[·]?)).map Column.collation
  let collation := (term.collation?.map Collation.ofName).getD (own.getD .binary)
  return { item, key := { collation, descending := term.descending && 4 ≤ rowFormat } }

/-- Whether two indexes order by the same columns. -/
def sameKey (a b : Index) : Bool :=
  let plain (index : Index) : List (Option Nat × Collation) :=
    index.keyColumns.map fun column => (column.item.column?, column.key.collation)
  plain a = plain b

/-- Where the entries of an index lead: to the number of a row, or to its primary key. -/
def trailing (table : Table) (columns : List IndexColumn) : List IndexColumn :=
  match table.hasRowid, table.primaryKey? with
  | false, some key => key.keyColumns.foldl (fun found column =>
      if Index.hasColumn columns column then found else found ++ [column]) []
  | _, _ => [{ item := .rowid }]

/-- The name of the next index that has none of its own. -/
def nextIndexName (table : Table) : String :=
  "sqlite_autoindex_" ++ table.name ++ "_" ++ toString (table.indexes.length + 1)

/-- Adds the index that a rule asks for. If there is one like it, that one serves for both. -/
def addRule (table : Table) (rowFormat : Nat) (kind : IndexKind) (terms : List IndexTerm)
    (onConflict? : Option OnConflict) : Except String Table := do
  let columns ← terms.mapM (table.indexColumn rowFormat true)
  let index : Index := {
    name := table.nextIndexName, kind, isUnique := true, onConflict?
    columns := columns ++ [{ item := .rowid }], keyWidth := columns.length }
  match table.indexes.find? (sameKey · index) with
  | none => return table.addIndex index
  | some found =>
    let isClash := found.onConflict?.isSome && onConflict?.isSome &&
      found.onConflict? ≠ onConflict?
    if isClash then throw "conflicting ON CONFLICT clauses specified"
    let shared := { found with
      onConflict? := found.onConflict?.orElse fun _ => onConflict?
      kind := if kind = .primaryKey then .primaryKey else found.kind }
    let indexes := table.indexes.map fun other =>
      if other.name = found.name then shared else other
    let replaces (index : Index) : Bool := index.onConflict? = some .replace
    return { table with indexes := indexes.filter (!replaces ·) ++ indexes.filter replaces }

/-! ## Columns -/

/-- Changes a column of a table. -/
def changeColumn (table : Table) (n : Nat) (f : Column → Column) : Table :=
  { table with columns := table.columns.modify n f }

/-- Makes a column part of the primary key. -/
def markKey (table : Table) (n : Nat) : Except String Table := do
  if table.columns[n]?.any Column.isGenerated then
    throw "generated columns cannot be part of the PRIMARY KEY"
  return table.changeColumn n fun column => { column with isKey := true }

/-- Whether a column has the type of numbers of rows. -/
def isRowidType (column : Column) : Bool := column.type.toLower = "integer"

/-- Sets the primary key. A single column of the right type holds the numbers of the rows, unless
it was said to descend; any other key needs an index. -/
def setPrimaryKey (table : Table) (rowFormat : Nat) (terms : List IndexTerm)
    (descending : Bool) (onConflict? : Option OnConflict) (isCounted : Bool) :
    Except String Table := do
  if table.columns.any (·.isKey) || table.rowidColumn?.isSome || table.primaryKey?.isSome then
    throw ("table \"" ++ table.name ++ "\" has more than one primary key")
  let place (term : IndexTerm) : Option Nat :=
    match term.expression.withoutCollation with
    | .column none name _ => table.find? name
    | .text name => table.find? name
    | _ => none
  let table ← (terms.filterMap place).foldlM markKey table
  let rowidColumn? : Option Nat := match terms with
    | [term] => (place term).filter fun n => !descending && table.columns[n]?.any isRowidType
    | _ => none
  if rowidColumn?.isSome then
    return { table with rowidColumn?, rowidConflict? := onConflict?, isCounted }
  else if isCounted then throw "AUTOINCREMENT is only allowed on an INTEGER PRIMARY KEY"
  else table.addRule rowFormat .primaryKey terms onConflict?

/-- Adds a reference to another table. -/
def addReference (table : Table) (columns : List String) (parent : String)
    (parents : List String) (followUps : FollowUps) (isDeferred : Bool) : Except String Table := do
  let columns ← columns.mapM fun column =>
    match table.find? column with
    | some n => .ok n
    | none => .error ("unknown column \"" ++ column ++ "\" in foreign key definition")
  let reference : ForeignKey := { columns, table := parent, parents, followUps, isDeferred }
  return { table with foreignKeys := reference :: table.foreignKeys }

/-- Says when the newest reference is checked. -/
def defer (table : Table) (isLate : Bool) : Table :=
  match table.foreignKeys with
  | [] => table
  | newest :: others => { table with foreignKeys := { newest with isDeferred := isLate } :: others }

/-- Adds what is said about the column after `n` others. -/
def addColumnRule (rowFormat n : Nat) (table : Table) (rule : ColumnRule) :
    Except String Table := do
  let title := (table.columns[n]?.map Column.name).getD ""
  let term (descending : Bool) : IndexTerm :=
    { expression := .column none title false, descending }
  match rule with
  | .primaryKey descending onConflict? isCounted =>
    table.setPrimaryKey rowFormat [term descending] descending onConflict? isCounted
  | .notNull onConflict? =>
    return table.changeColumn n fun column =>
      { column with notNull? := some (onConflict?.getD .abort) }
  | .unique onConflict? => table.addRule rowFormat .unique [term false] onConflict?
  | .check condition name => return { table with checks := table.checks ++ [(condition, name)] }
  | .default value =>
    unless value.isConstant do
      throw ("default value of column [" ++ title ++ "] is not constant")
    if table.columns[n]?.any Column.isGenerated then
      throw "cannot use DEFAULT on a generated column"
    return table.changeColumn n fun column => { column with default? := some value }
  | .collate name =>
    let collation := Collation.ofName name
    let isHere (index : Index) : Bool :=
      index.columns.head?.any fun first => first.item.column? = some n
    let retold (index : Index) : Index :=
      if isHere index then
        { index with columns := index.columns.modify 0 fun column =>
            { column with key := { column.key with collation } } }
      else index
    let table := table.changeColumn n fun column => { column with collation }
    return { table with indexes := table.indexes.map retold }
  | .generated value stored =>
    if table.columns[n]?.any fun column => column.default?.isSome || column.isGenerated then
      throw ("error in generated column \"" ++ title ++ "\"")
    if table.columns[n]?.any (·.isKey) then
      throw "generated columns cannot be part of the PRIMARY KEY"
    return table.changeColumn n fun column =>
      { column with generated? := some { value, stored } }
  | .references parent parents followUps =>
    if 1 < parents.length then
      throw ("foreign key on " ++ title ++ " should reference only one column of table "
        ++ parent)
    table.addReference [title] parent parents followUps false
  | .deferral isLate => return table.defer isLate

/-- Adds a column. -/
def addColumn (rowFormat : Nat) (table : Table) (definition : ColumnDefinition) :
    Except String Table := do
  if (table.find? definition.name).isSome then
    throw ("duplicate column name: " ++ definition.name)
  let n := table.columns.length
  let column : Column := {
    name := definition.name, type := definition.type
    affinity := Affinity.ofType definition.type }
  definition.rules.foldlM (addColumnRule rowFormat n)
    { table with columns := table.columns ++ [column] }

/-! ## Rules of the table -/

/-- Adds what is said about the table besides its columns. -/
def addTableRule (rowFormat : Nat) (table : Table) (rule : TableRule) : Except String Table :=
  match rule with
  | .primaryKey terms onConflict? isCounted =>
    table.setPrimaryKey rowFormat terms false onConflict? isCounted
  | .unique terms onConflict? => table.addRule rowFormat .unique terms onConflict?
  | .check condition name => return { table with checks := table.checks ++ [(condition, name)] }
  | .foreignKey columns parent parents followUps isDeferred =>
    if !parents.isEmpty && parents.length ≠ columns.length then
      throw ("number of columns in foreign key does not match the number of columns in the "
        ++ "referenced table")
    else table.addReference columns parent parents followUps isDeferred

/-- The types that columns of a strict table can have. -/
def strictTypes : List String := ["any", "blob", "int", "integer", "real", "text"]

/-- Makes a table strict. -/
def makeStrict (table : Table) : Except String Table := do
  for column in table.columns do
    unless strictTypes.contains column.type.toLower do
      if column.type = "" then
        throw ("missing datatype for " ++ table.name ++ "." ++ column.name)
      else
        throw ("unknown datatype for " ++ table.name ++ "." ++ column.name ++ ": \""
          ++ column.type ++ "\"")
  let strict (n : Nat) (column : Column) : Column :=
    let isBound := column.isKey && table.rowidColumn? ≠ some n && column.notNull?.isNone
    { column with
      affinity := if column.type.toLower = "any" then .blob else column.affinity
      notNull? := if isBound then some .abort else column.notNull? }
  return { table with isStrict := true, columns := table.columns.mapIdx strict }

/-- Columns without those that are there before them. -/
def distinctColumns (columns : List IndexColumn) : List IndexColumn :=
  columns.foldl (fun found column =>
    if Index.hasColumn found column then found else found ++ [column]) []

/-- Makes a table keep its rows by its primary key. -/
def dropRowid (table : Table) (rowFormat : Nat) : Except String Table := do
  if table.isCounted then throw "AUTOINCREMENT not allowed on WITHOUT ROWID tables"
  unless table.rowidColumn?.isSome || table.primaryKey?.isSome do
    throw ("PRIMARY KEY missing on table " ++ table.name)
  let bound (column : Column) : Column :=
    if column.isKey && column.notNull?.isNone then { column with notNull? := some .abort }
    else column
  let table := { table with columns := table.columns.map bound }
  let table ← match table.rowidColumn? with
    | none => pure table
    | some n =>
      let title := (table.columns[n]?.map Column.name).getD ""
      let term : IndexTerm := { expression := .column none title false }
      { table with rowidColumn? := none }.addRule rowFormat .primaryKey [term]
        table.rowidConflict?
  match table.primaryKey? with
  | none => return table
  | some key =>
    let keyColumns := distinctColumns key.keyColumns
    let others := table.storedColumns.filter fun (n, _) =>
      !keyColumns.any (·.item.column? = some n)
    let rest : List IndexColumn := others.map fun (n, _) => { item := .column n }
    let full := { key with
      root := table.root, columns := keyColumns ++ rest, keyWidth := keyColumns.length }
    let reordered (index : Index) : Index :=
      if index.isPrimaryKey then full
      else
        let missing := keyColumns.filter (!Index.hasColumn index.keyColumns ·)
        { index with columns := index.keyColumns ++ missing }
    return { table with hasRowid := false, indexes := table.indexes.map reordered }

/-- Checks what is said about rows of a table, and about columns that are generated. -/
def checkRules (table : Table) : Except String Unit := do
  for (condition, _) in table.checks do table.check .check condition
  for column in table.columns do
    if let some generated := column.generated? then table.check .generated generated.value
  if table.columns.all Column.isGenerated then
    throw "must have at least one non-generated column"

/-- The table that a definition of a table says, with that root. -/
def ofDefinition (rowFormat root : Nat) (name : String) (columns : List ColumnDefinition)
    (rules : List TableRule) (options : List TableOption) : Except String Table := do
  let table ← columns.foldlM (addColumn rowFormat) { name, root, columns := [] }
  let table ← rules.foldlM (addTableRule rowFormat) table
  let table ← if options.contains .strict then table.makeStrict else pure table
  let table ← if options.contains .withoutRowid then table.dropRowid rowFormat else pure table
  table.checkRules
  return table

/-- The index that a definition of an index says, with that root. -/
def indexOfDefinition (table : Table) (rowFormat root : Nat) (name : String) (isUnique : Bool)
    (terms : List IndexTerm) (condition? : Option Expression) : Except String Index := do
  if let some condition := condition? then table.check .partly condition
  let columns ← terms.mapM (table.indexColumn rowFormat false)
  return {
    name, root, isUnique, condition?
    columns := columns ++ table.trailing columns, keyWidth := columns.length }

end Table
end AppCatalog
