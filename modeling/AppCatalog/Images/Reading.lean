import AppCatalog.Images.Work

/-!
# Reading apps from database files

The listing, the search for an app, the count of apps, and the question whether a migration is
recorded, on a database whatever its schema is. Rows of a table are read where they stand, value by
value, so that what is wrong with a row shows only when it is come to. An index that begins with
what is searched for is searched; and the smallest index counts the rows.
-/

namespace AppCatalog

namespace Schema

/-- The table or the view of that name. -/
def existing (schema : Schema) (name : String) : Except SqlError Table :=
  match schema.table? name with
  | some table => .ok table
  | none => .error (.noSuchTable name)

end Schema

namespace Expression

/-- A column by its name. -/
def columnNamed (name : String) : Expression := .column none name false

end Expression

namespace Selection

/-- The selection of some columns of a table. -/
def ofColumns (table : String) (results : List ResultColumn) (condition? : Option Expression) :
    Selection :=
  .plain false results [.mk (.table none table none) none {} none none] condition? [] none []

/-- The selection in the order of the numbers of rows. -/
def inRowOrder (selection : Selection) (limit? : Option Expression) : Selection :=
  .ordered selection [(.columnNamed "rowid", false, none)] limit? none

end Selection

/-- A selection that makes sense: what its rows are found with, and the names of its columns. -/
structure Selected where
  machine : Machine
  query : Nat
  names : List String

namespace Selected

/-- What a selection selects for a parameter. -/
def ofSelection (schema : Schema) (selection : Selection) (parameter : Value) :
    Except SqlError Selected := do
  let site : Site := { schema }
  let (query, preparation) ← (site.selection selection).alone
  let names := (preparation.book.query query).first.results.map QueryResult.name
  return { machine := ← Machine.ofPreparation schema parameter preparation, query, names }

/-- Goes through the rows. -/
def each {α : Type} (selected : Selected) (take : α → AnswerRow → Run (Taken α)) (state : α) :
    Run α := do
  let encoding := selected.machine.schema.encoding
  let (state, _) ← selected.machine.each [] selected.query
    (fun state row =>
      take state { encoding, names := selected.names, values := row.map (·.value) }) state
  return state

/-- The entries of a listing. The first row that holds no entry ends them. -/
def summaries (selected : Selected) : Run (Except StoreError (Array Summary)) :=
  selected.each (fun found row => do
    match found, row.summary with
    | .ok found, .ok summary => return (.ok (found.push summary), true)
    | .ok _, .error cause => return (.error cause, false)
    | .error cause, _ => return (.error cause, false)) (.ok #[])

/-- The first row. -/
def first? (selected : Selected) : Run (Option AnswerRow) :=
  selected.each (fun _ row => return (some row, false)) none

end Selected

namespace Table

/-! ## Columns -/

/-- The place of a column that must exist. -/
def existingColumn (table : Table) (name : String) : Except SqlError Nat :=
  match table.find? name with
  | some n => .ok n
  | none => .error (.senseless (noColumn none name))

/-- Checks that the rows of a table have numbers. -/
def checkNumbered (table : Table) : Except SqlError Unit :=
  if table.hasRowid then .ok () else .error (.senseless (noColumn none "rowid"))

/-- Whether the rows of a table are asked for by their number under its usual name. -/
def isPlain (table : Table) : Bool := table.view?.isNone && (table.find? "rowid").isNone

/-- The names of some columns. -/
def namesOf (table : Table) (columns : List Nat) : List String :=
  columns.map fun n => (table.columns[n]?.map Column.name).getD ""

/-- A row that answers with some columns of the row on which a cursor rests. -/
def answerAt (table : Table) (encoding : Encoding) (columns : List Nat) (cursor : Cursor) :
    Run AnswerRow := do
  let values ← columns.mapM (table.valueAt encoding cursor)
  return { encoding, names := table.namesOf columns, values }

/-! ## The listing -/

/-- The entries of the listing from the row on which a cursor rests. The first row that holds no
entry ends them. -/
def summariesFrom (table : Table) (encoding : Encoding) (columns : List Nat) :
    (rounds : Nat) → Cursor → Array Summary → Run (Except StoreError (List Summary))
  | 0, _, _ => Run.fail .malformed
  | rounds + 1, cursor, found => do
    if !cursor.isOn then return .ok found.toList
    match (← table.answerAt encoding columns cursor).summary with
    | .error cause => return .error cause
    | .ok summary =>
      summariesFrom table encoding columns rounds (← (cursor.next : Volume.Act Cursor))
        (found.push summary)

/-! ## Searching by a value -/

/-- What rows are searched by: a column and the value that it has in them. -/
structure Search where
  column : Nat
  value : Value
  /-- Whether the first row in row order is wanted, and not any one. -/
  inOrder : Bool

/-- How texts of a column are ordered. -/
def collationOf (table : Table) (n : Nat) : Collation :=
  (table.columns[n]?.map Column.collation).getD .binary

/-- What a column makes of values. -/
def affinityOf (table : Table) (n : Nat) : Affinity :=
  (table.columns[n]?.map Column.affinity).getD .blob

/-- The index by which rows are searched that have a value in a column: one on which rows are
unique, or else the newest. -/
def indexFor? (table : Table) (n : Nat) : Option Index :=
  let begins (index : Index) : Bool := index.condition?.isNone &&
    match index.columns.head? with
    | some first =>
      first.item.column? = some n && first.key.collation = table.collationOf n
    | none => false
  let found := table.indexes.filter begins
  let single := found.filter (·.keyWidth = 1)
  ((single.find? (·.isUnique)).orElse fun _ => single.head?).orElse fun _ => found.head?

/-- Checks that the order of texts of a column, and those of an index, are known. -/
def checkCollations (collations : List Collation) : Except SqlError Unit :=
  match collations.find? (!·.isKnown) with
  | some unknown => .error (.unknownCollation unknown.name)
  | none => .ok ()

/-- The orders of texts of an index. -/
def collationsOf (index : Index) : List Collation :=
  index.columns.map (·.key.collation)

/-- Goes to the first entry of an index that does not come before a value, if there can be one with
the value. -/
def seekEntry (encoding : Encoding) (index : Index) (value : Value) : Volume.Act Cursor := do
  let cursor ← Volume.openIndex index
  let key : Key := { order := keyOrder encoding index, values := [value], whenEqual := .gt }
  let found ← cursor.seekRecord key.probe
  if !found.isMet then return { found.cursor with rest := .off }
  else if found.order = .lt then found.cursor.next
  else return found.cursor

/-- Goes through the entries of an index that have a value, behind one that is known to. -/
def entriesBehind (encoding : Encoding) (index : Index) (value : Value) :
    (rounds : Nat) → Cursor → Array Cursor → Volume.Act (Array Cursor)
  | 0, _, _ => throw .malformed
  | rounds + 1, cursor, found => do
    let found := found.push cursor
    let cursor ← cursor.next
    if !cursor.isOn then return found
    let key : Key := { order := keyOrder encoding index, values := [value] }
    if (← key.compareAt cursor) = .gt then return found
    entriesBehind encoding index value rounds cursor found

/-- Goes through the rows of a table up to the first that has a value in a column, from the one on
which a cursor rests. -/
def rowWith (table : Table) (encoding : Encoding) (search : Search) :
    (rounds : Nat) → Cursor → Run (Option Cursor)
  | 0, _ => Run.fail .malformed
  | rounds + 1, cursor => do
    if !cursor.isOn then return none
    let value ← table.valueAt encoding cursor search.column
    let order := Affinity.compareValues (table.affinityOf search.column) encoding
      (table.collationOf search.column) value search.value
    if !value.isNull && order = .eq then return some cursor
    rowWith table encoding search rounds (← (cursor.next : Volume.Act Cursor))

/-- A row that answers with some columns of the row to which an entry of an index leads. -/
def answerBehind (table : Table) (encoding : Encoding) (index : Index) (columns : List Nat)
    (entry : Cursor) : Run AnswerRow := do
  let values ← columns.mapM fun n => table.valueBehind encoding index entry (some n)
  return { encoding, names := table.namesOf columns, values }

/-- The first of some rows, to which entries of an index lead, in the order of their numbers. -/
def firstBehind (table : Table) (encoding : Encoding) (index : Index) (columns : List Nat)
    (entries : List Cursor) : Run (Option AnswerRow) := do
  let first? ← entries.foldlM (fun first? entry => do
    let rowid ← (Record.rowid entry : Volume.Act Int)
    if first?.any (·.1 ≤ rowid) then return first?
    else return some (rowid, ← table.answerBehind encoding index columns entry))
    (none : Option (Int × AnswerRow))
  return first?.map (·.2)

/-- The first row that has a value in a column, as an answer with some columns. Where any row will
do, an index has the columns that are asked for. -/
def firstWith (table : Table) (encoding : Encoding) (columns : List Nat) (search : Search) :
    Run (Option AnswerRow) := do
  if table.rowidColumn? = some search.column then
    match rowidOf? encoding search.value with
    | none => return none
    | some rowid =>
      let (row, order) ← (table.cursor.seek rowid : Volume.Act _)
      if order = .eq then return some (← table.answerAt encoding columns row) else return none
  else
    match table.indexFor? search.column with
    | some index =>
      let value := (table.affinityOf search.column).apply encoding search.value
      let first ← (seekEntry encoding index value : Volume.Act Cursor)
      if !first.isOn then return none
      if !search.inOrder then
        return some (← table.answerBehind encoding index columns first)
      let entries ←
        if index.keyWidth = 1 then pure #[first]
        else (entriesBehind encoding index value Cursor.maxVisits first #[] : Volume.Act _)
      table.firstBehind encoding index columns entries.toList
    | none =>
      let first ← (table.cursor.first : Volume.Act Cursor)
      match ← table.rowWith encoding search Cursor.maxVisits first with
      | none => return none
      | some row => return some (← table.answerAt encoding columns row)

/-- The orders of texts that must be known for a search. -/
def searchCollations (table : Table) (n : Nat) : List Collation :=
  table.collationOf n ::
    if table.rowidColumn? = some n then [] else ((table.indexFor? n).map collationsOf).getD []

/-! ## Counting -/

/-- The index whose entries are counted in place of rows: the smallest, if it is smaller than the
rows. -/
def indexForCount? (table : Table) : Option Index :=
  let start := if table.hasRowid then none else table.primaryKey?
  table.indexes.foldl (fun best? index =>
    let size := table.entrySize index
    let isBetter := size < table.rowSize && index.condition?.isNone &&
      best?.all fun best => size < table.entrySize best
    if isBetter then some index else best?) start

end Table

namespace Sketch

/-- What the first of some rows holds, if there is one. -/
def replyOf {α : Type} (take : AnswerRow → Except StoreError α) (row? : Option AnswerRow) :
    Reply (Option α) :=
  { result := row?.mapM take }

/-- Lists all apps without their sources, in row order. -/
def listing : Sketch (List Summary) := fun schema => do
  let table ← schema.existing "apps"
  let names := ["identifier", "name", "description"]
  if table.isPlain then
    let columns ← names.mapM table.existingColumn
    table.checkNumbered
    return .reading do
      let first ← (table.cursor.first : Volume.Act Cursor)
      return { result := ← table.summariesFrom schema.encoding columns Cursor.maxVisits first #[] }
  else
    let results := names.map fun name => ResultColumn.value (.columnNamed name) none name
    let selection := Selection.inRowOrder (.ofColumns "apps" results none) none
    let selected ← Selected.ofSelection schema selection .null
    return .reading do return { result := (← selected.summaries).map Array.toList }

/-- Finds the first app in row order with exactly that identifier. -/
def find (identifier : String) : Sketch (Option App) := fun schema => do
  let table ← schema.existing "apps"
  let value := Value.ofString schema.encoding identifier
  if table.isPlain then
    let column ← table.existingColumn "identifier"
    Table.checkCollations (table.searchCollations column)
    table.checkNumbered
    let columns := List.range table.columns.length
    let search : Table.Search := ⟨column, value, true⟩
    return .reading do
      return replyOf AnswerRow.app (← table.firstWith schema.encoding columns search)
  else
    let condition := Expression.binary .eq (.columnNamed "identifier") .variable
    let selection := Selection.inRowOrder (.ofColumns "apps" [.all] (some condition))
      (some (.integer 1))
    let selected ← Selected.ofSelection schema selection value
    return .reading do return replyOf AnswerRow.app (← selected.first?)

/-- Counts the apps. -/
def count : Sketch Nat := fun schema => do
  let table ← schema.existing "apps"
  if table.view?.isNone then
    let index? := table.indexForCount?
    Table.checkCollations ((index?.map Table.collationsOf).getD [])
    return .reading do
      let cursor ← match index? with
        | some index => (Volume.openIndex index : Volume.Act Cursor)
        | none => (Volume.openTree table.root table.hasRowid : Volume.Act Cursor)
      return .of (← (cursor.count : Volume.Act Nat))
  else
    let counted := ResultColumn.value (.callAll "count") none "COUNT(*)"
    let selected ← Selected.ofSelection schema (.ofColumns "apps" [counted] none) .null
    return .reading do
      let row? ← selected.first?
      let value := (row?.bind (·.values.head?)).getD .null
      return .of (value.toInteger schema.encoding).toNat

/-- Asks whether a migration of that name is recorded. -/
def isRecorded (name : String) : Sketch Bool := fun schema => do
  let table ← schema.existing "_migrations"
  let value := Value.ofString schema.encoding name
  let taken (row? : Option AnswerRow) : Reply Bool :=
    let result := row?.mapM fun row =>
      ((row.values.headD .null).asText schema.encoding).mapError (.unfitValue (.numbered 0))
    { result := result.map Option.isSome }
  if table.view?.isNone then
    let column ← table.existingColumn "name"
    Table.checkCollations (table.searchCollations column)
    return .reading do
      return taken (← table.firstWith schema.encoding [column] ⟨column, value, false⟩)
  else
    let condition := Expression.binary .eq (.columnNamed "name") .variable
    let results := [ResultColumn.value (.columnNamed "name") none "name"]
    let selected ← Selected.ofSelection schema (.ofColumns "_migrations" results (some condition))
      value
    return .reading do return taken (← selected.first?)

end Sketch
end AppCatalog
