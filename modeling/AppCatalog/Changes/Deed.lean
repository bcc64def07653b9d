import AppCatalog.Changes.Trigger

/-!
# Deeds

What a statement does, once its names are looked up: it goes through rows, or inserts, changes or
deletes some. Rows to be changed or deleted are found first, by a query that tells them from the
others: by their numbers, by the columns of their primary key, or for a view by all columns.
-/

namespace AppCatalog

/-- Other values for some columns of a row. The number of a row has no place. -/
structure Revision where
  table : Table
  /-- The columns as they are named. -/
  names : List String
  /-- The number of values by which a row is told from the others. -/
  width : Nat
  /-- The source from which the new values are computed: the row that changes, or what is known of
  it when it is found. -/
  cursor : Nat
  isKnown : Bool := false
  /-- The new values, each for the place of a column. -/
  changes : List (Option Nat × Term)

/-- How the row changes that is in the way of one that is inserted. -/
structure Settlement where
  revision : Revision
  condition? : Option Term
  /-- The source that the row is which cannot be inserted. -/
  excluded : Nat

/-- Where rows are inserted: the places of the columns that get values, and what is done about rows
that are in the way. -/
structure Inlet where
  table : Table
  /-- The number of columns of the table. -/
  width : Nat
  columns : List (Option Nat)
  clauses : List ClashClause := []
  /-- How rows change that are in the way, by the places of the clauses. -/
  settlements : List (Nat × Settlement) := []

/-- What a statement does. -/
inductive Deed where
  | select (query : Nat)
  | insert (onConflict? : Option OnConflict) (inlet : Inlet) (query : Nat)
  | update (onConflict? : Option OnConflict) (revision : Revision) (query : Nat)
  | delete (table : Table) (query : Nat)

/-- Whether a deed changes nothing. -/
def Deed.isSelection : Deed → Bool
  | .select _ => true
  | _ => false

namespace Table

/-- Checks that the orders of texts of all columns of some indexes are known. -/
def checkIndexes (indexes : List Index) : Except SqlError Unit :=
  let collations := indexes.flatMap fun index => index.columns.map (·.key.collation)
  match collations.find? (!·.isKnown) with
  | some unknown => .error (.unknownCollation unknown.name)
  | none => .ok ()

/-- Checks that a table can be changed at all. A view needs a trigger for that; any will do if the
statement gives rows back. -/
def checkWritable (table : Table) (event : TriggerEvent) (givesBack : Bool := false) :
    Except SqlError Unit := do
  if table.root = 1 || table.module?.isSome then
    throw (.senseless ("table " ++ table.name ++ " may not be modified"))
  let hasTrigger :=
    if givesBack then !table.triggers.isEmpty else table.hasAnyTrigger event
  if table.view?.isSome && !hasTrigger then
    throw (.senseless ("cannot modify " ++ table.name ++ " because it is a view"))

/-- The places of the columns that an insertion into a table, which it calls `title`, names, and
those that it means if it names none. -/
def insertedColumns (table : Table) (heads : List Head) (title : String)
    (columns : List String) : Except SqlError (List (Option Nat)) := do
  let isGenerated (n : Nat) : Bool := table.columns[n]?.any Column.isGenerated
  if columns.isEmpty then
    return ((List.range heads.length).filter (!isGenerated ·)).map some
  else
    columns.mapM fun name =>
      match heads.findIdx? (Table.sameName ·.name name) with
      | some n =>
        if isGenerated n then
          let title := (heads[n]?.map Head.name).getD name
          .error (.senseless ("cannot INSERT into generated column \"" ++ title ++ "\""))
        else .ok (some n)
      | none =>
        if Table.isRowidName name && table.hasRowid then .ok none
        else .error (.senseless ("table " ++ title ++ " has no column named " ++ name))

/-- The place of a column that an update names. -/
def updatedColumn (table : Table) (heads : List Head) (name : String) :
    Except SqlError (Option Nat) :=
  match heads.findIdx? (Table.sameName ·.name name) with
  | some n =>
    match table.columns[n]? with
    | some column =>
      if table.view?.isNone && column.isGenerated then
        .error (.senseless ("cannot UPDATE generated column \"" ++ column.name ++ "\""))
      else .ok (some n)
    | none => .ok (some n)
  | none =>
    if Table.isRowidName name && table.hasRowid then .ok none
    else .error (.senseless ("no such column: " ++ name))

/-- The columns that tell a row of a table from the others; those of a view are all of them. -/
def tellingColumns (table : Table) (heads : List Head) : List (Option Nat) :=
  if table.view?.isSome then (List.range heads.length).map some
  else
    match if table.hasRowid then none else table.primaryKey? with
    | some key => key.keyColumns.map (·.item.column?)
    | none => [none]

/-- New values of columns, the number of the row first. Of several for one column the last one
counts. -/
def inTurn (table : Table) (changes : List (Option Nat × Term)) : List (Option Nat × Term) :=
  let isNumber (place : Option Nat) : Bool :=
    place.all fun n => table.rowidColumn? = some n
  let backwards := changes.reverse
  let number := (backwards.find? (isNumber ·.1)).toList
  let others := backwards.filter (!isNumber ·.1)
  let greatest := others.foldl (fun greatest change => max greatest (change.1.getD 0)) 0
  number ++ (List.range (greatest + 1)).filterMap fun n => others.find? (·.1 = some n)

end Table

namespace Site

/-- The table or the view of that name. -/
def existing (site : Site) (name : String) : Except SqlError Table :=
  match site.schema.table? name with
  | some table => .ok table
  | none =>
    match Supplier.find? name with
    | some supplier =>
      .error (.senseless ("table " ++ supplier.name ++ " may not be modified"))
    | none => .error (.noSuchTable ((if site.isDefined then "main." else "") ++ name))

/-- The source that a table is whose columns are known. -/
def target (name : String) (table : Table) (heads : List Head) : Preparing QuerySource := do
  let source ← Site.table name table
  return { source with heads }

/-! ## Rows -/

/-- The rows of a table that satisfy a condition, told from the others. -/
def chosen (site : Site) (source : QuerySource) (table : Table) (condition? : Option Expression) :
    Preparing Nat := do
  if table.view?.isSome then
    let origin : Origin := .table (if site.isDefined then some "main" else none) table.name none
    site.selection
      (.plain false [.all] [.mk origin none {} none none] condition? [] none [])
  else
    let condition? ← condition?.mapM fun condition =>
      site.expression { sources := [{ source }] } condition
    let results := (table.tellingColumns source.heads).map fun column? =>
      ({ term := .field (source.field column?), name := "" } : QueryResult)
    let number ← Site.draw Outlining.newBranch
    let branch : Branch :=
      { number, results, sources := [source]
        conditions := condition?.toList.map fun term => { term } }
    Preparing.keep { branches := [(.unionAll, branch)], heads := [] }

/-- Rows of values. -/
def listed (site : Site) (row : List Expression) : Preparing Nat := do
  let terms ← row.mapM (site.expression {})
  let number ← Site.draw Outlining.newBranch
  let results := terms.map fun term => ({ term, name := "" } : QueryResult)
  Preparing.keep { branches := [(.unionAll, { number, results, isValues := true })], heads := [] }

/-! ## Inserting -/

/-- The columns that rows get values for. -/
def inlet (site : Site) (name : String) (columns : List String) (givesBack : Bool := false) :
    Except SqlError (Inlet × List Head) := do
  let table ← site.existing name
  let heads ← headsOf site.schema table
  table.checkWritable .insert givesBack
  if table.isCounted then discard site.schema.counters
  let places ← table.insertedColumns heads name columns
  return ({ table, width := heads.length, columns := places }, heads)

/-- The rows that are inserted, as many values in each as there are columns. -/
def insertedRows (site : Site) (inlet : Inlet) (title : String) (isNamed : Bool)
    (selection : Selection) : Preparing Nat := do
  let number ← match selection with
    | .values [row] => site.listed row
    | selection => site.selection selection
  let width := ((← get).book.query number).width
  let count := inlet.columns.length
  if width ≠ count then
    if isNamed then
      throw (.senseless (toString width ++ " values for " ++ toString count ++ " columns"))
    else
      throw (.senseless ("table " ++ title ++ " has " ++ toString count
        ++ " columns but " ++ toString width ++ " values were supplied"))
  return number

/-! ## Changing -/

/-- What an assignment gives to its columns. -/
def assigned (site : Site) (sight : Sight) (place : String → Except SqlError (Option Nat))
    (assignment : Assignment) : Preparing (List (Option Nat × Term)) :=
  match assignment.columns, assignment.value with
  | [column], value => do
    let term ← site.expression sight value
    return [(← place column, term)]
  | columns, .row items =>
    (columns.zip items).mapM fun (column, item) => do
      let term ← site.expression sight item
      return (← place column, term)
  | columns, value => do
    let term ← site.expression sight value
    columns.zipIdx.mapM fun (column, n) => do
      let part := match term with
        | .scalar query => Term.item query columns.length n
        | term => term
      return (← place column, part)

/-- The change that some assignments are, whose values are computed from a source. -/
def revision (site : Site) (source : QuerySource) (table : Table)
    (assignments : List Assignment) (given : List GivenRow := []) : Preparing Revision := do
  let sight : Sight := { sources := [{ source }], given }
  let found ← assignments.mapM (site.assigned sight (table.updatedColumn source.heads))
  let changes := found.flatten
  let names := assignments.flatMap (·.columns)
  return { table, names, width := (table.tellingColumns source.heads).length
           cursor := source.cursor, changes := table.inTurn changes }

/-- Whether one of some sources is the table itself. -/
def isAmong (table : Table) : (rounds : Nat) → List Source → Bool
  | 0, _ => false
  | rounds + 1, sources => sources.any fun source =>
    match source with
    | .mk (.table _ name _) none _ _ _ => Table.sameName name table.name
    | .mk (.sources inner) _ _ _ _ => isAmong table rounds inner
    | _ => false

/-- The change that some assignments are, whose values are computed from rows of the table and of
other sources that go with each other; and the query for those rows: what tells the row that
changes from the others, and the new values behind that. -/
def revisionFrom (site : Site) (table : Table) (heads : List Head)
    (assignments : List Assignment) (sources : List Source) (condition? : Option Expression) :
    Preparing (Revision × Nat) := do
  let cursor ← Site.draw Outlining.newCursor
  let telling := table.tellingColumns heads
  let pairs := assignments.flatMap fun assignment =>
    match assignment.columns, assignment.value with
    | [column], value => [(column, value, none)]
    | columns, .row items =>
      (columns.zip items).map fun (column, item) => (column, item, none)
    | columns, value =>
      columns.zipIdx.map fun (column, place) => (column, value, some (columns.length, place))
  let mut changes : List (Option Nat × Term) := []
  for ((column, _), n) in pairs.zipIdx do
    let place? ← table.updatedColumn heads column
    let term : Term := .field { cursor, column? := some (telling.length + n), name := column }
    changes := changes ++ [(place?, term)]
  let others := match sources with
    | [source] => [source]
    | sources => [.mk (.sources sources) none {} none none]
  let own : Source := .mk (.table (some "main") table.name none) none {} none none
  let results := pairs.map fun (_, value, _) => ResultColumn.value value none ""
  let number ← site.selection
    (.plain false results (own :: others) condition? [] none [])
  let query := (← get).book.query number
  let branch := query.first
  let source := branch.sources.headD default
  let key := telling.map fun column? =>
    ({ term := .field (source.field column?), name := "" } : QueryResult)
  let values := (branch.results.zip pairs).map fun (result, _, _, part?) =>
    match result.term, part? with
    | .scalar inner, some (count, place) => { result with term := .item inner count place }
    | _, _ => result
  let branch := { branch with results := key ++ values, isUpdate := true }
  modify fun state =>
    { state with
      book := state.book.set! number { query with branches := [(.unionAll, branch)] } }
  if isAmong table Surroundings.maxDepth sources then
    throw (.senseless ("target object/alias may not appear in FROM clause: " ++ table.name))
  let names := assignments.flatMap (·.columns)
  let revision : Revision :=
    { table, names, width := telling.length, cursor, isKnown := true
      changes := table.inTurn changes }
  return (revision, number)

/-! ## Rows in the way -/

/-- The words for the place of one of several clauses. -/
def clauseTitle (place count : Nat) : String :=
  if place = 0 && count ≤ 1 then "" else ordinal (place + 1) ++ " "

/-- What a clause of an insertion is for. -/
def clashTarget (site : Site) (source : QuerySource) (table : Table) (clause : Upsert) :
    Preparing (Option ClashTarget) := do
  let sight : Sight := { sources := [{ source }] }
  let terms ← clause.target.mapM fun term =>
    let expression := match term.collation? with
      | some name => Expression.collate term.expression name
      | none => term.expression
    site.expression sight expression
  let condition? ← clause.targetCondition?.mapM (site.expression sight)
  if terms.isEmpty then return some .any
  let isNumber := match terms with
    | [.field field] => table.hasRowid && field.column?.isNone
    | _ => false
  if isNumber then return some .number
  let like (expression : Expression) : Preparing Term :=
    { site with isLenient := true }.expression sight expression
  let isFor (index : Index) : Preparing Bool := do
    if !index.isUnique || index.keyWidth ≠ terms.length then return false
    let isCovered ← match index.condition? with
      | none => pure true
      | some own =>
        let own ← like own
        pure (condition?.any (Term.isSame own))
    if !isCovered then return false
    index.keyColumns.allM fun column => do
      let own ← match column.item with
        | .expression expression => like expression
        | item => pure (.field (source.field item.column?))
      let own := match own with
        | .collate .. => own
        | own => .collate own column.key.collation true
      return terms.any fun term => Term.likeness term own ≠ .different
  let found? ← table.indexes.findM? isFor
  return found?.map fun index => .key index.name

/-- What the clauses of an insertion are for. -/
def clashTargets (site : Site) (source : QuerySource) (table : Table) (clauses : List Upsert) :
    Preparing (List ClashClause) := do
  if table.view?.isSome && !clauses.isEmpty then throw (.senseless "cannot UPSERT a view")
  clauses.zipIdx.mapM fun (clause, place) => do
    match ← site.clashTarget source table clause with
    | some target => return { target, changes := clause.assignments?.isSome }
    | none =>
      throw (.senseless (clauseTitle place clauses.length
        ++ "ON CONFLICT clause does not match any PRIMARY KEY or UNIQUE constraint"))

/-- How a row changes that is in the way. -/
def settlement (site : Site) (source : QuerySource) (table : Table) (clause : Upsert) :
    Preparing Settlement := do
  let excluded ← Site.draw Outlining.newCursor
  let row : GivenRow :=
    { source := { source with cursor := excluded, name := "excluded", alias? := none }
      isBare := true }
  let revision ← site.revision source table (clause.assignments?.getD []) [row]
  let sight : Sight := { sources := [{ source }], given := [row] }
  let condition? ← clause.condition?.mapM (site.expression sight)
  return { revision, condition?, excluded }

end Site
end AppCatalog
