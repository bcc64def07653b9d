import AppCatalog.Query.Term
import AppCatalog.Schema.Table

/-!
# Queries

Selections whose names are looked up. A query has branches, which are put together one after
another; each goes through the rows of its sources. Queries inside of queries are told by their
numbers, and sources by theirs, which no two sources share.
-/

namespace AppCatalog

/-- A column of a source of rows. -/
structure Head where
  name : String
  affinity? : Option Affinity := none
  collation? : Option Collation := none
  /-- Whether it must have a value. -/
  isBound : Bool := false
  /-- Whether it is left out where all columns are meant. -/
  isHidden : Bool := false
  /-- Whether it is left out where all columns of all sources are meant. -/
  isShared : Bool := false
  /-- Whether it holds the numbers of the rows. -/
  isRowid : Bool := false
  deriving Repr, DecidableEq

namespace Table

/-- What expressions know of the columns. -/
def heads (table : Table) : List Head :=
  table.columns.zipIdx.map fun (column, n) =>
    { name := column.name, affinity? := some column.affinity
      collation? := some column.collation, isRowid := table.rowidColumn? = some n
      isBound := column.notNull?.isSome }

end Table

/-- A function that gives rows, or a table whose rows a module knows. -/
structure Supplier where
  name : String
  heads : List Head
  deriving Repr, DecidableEq

/-- What a source takes rows from. -/
inductive SourceOrigin where
  | table (table : Table)
  | query (number : Nat)
  | supplier (supplier : Supplier)
  /-- The rows that a query found before, of which it finds more. -/
  | found

/-- How a source is joined with those before it. -/
structure Joining where
  /-- Whether rows before it stay that no row of it goes with. -/
  keepsLeft : Bool := false
  /-- Whether its rows stay that go with no row before it. -/
  keepsRight : Bool := false
  /-- Whether rows of it or of those before it stay. -/
  isOuter : Bool := false
  /-- Whether the sources before it are gone through first. -/
  isOrdered : Bool := false
  /-- Whether a source behind it keeps its own rows. -/
  isBeforeRight : Bool := false
  deriving Repr, DecidableEq

namespace Joining

/-- How a source is joined by a kind of join. -/
def ofKind (kind : JoinKind) : Joining where
  keepsLeft := kind.keepsLeft
  keepsRight := kind.keepsRight
  isOuter := kind.keepsLeft || kind.keepsRight
  isOrdered := kind.isOrdered

/-- Whether there may be no row of the source. -/
def mayLack (joining : Joining) : Bool := joining.keepsLeft || joining.isBeforeRight

end Joining

/-- A query that is known by a name, and that several sources may share: whether its rows are kept
apart, if that is said. -/
structure SharedQuery where
  number : Nat
  isApart? : Option Bool
  deriving Repr, DecidableEq

/-- A source of rows. -/
structure QuerySource where
  cursor : Nat
  name : String
  alias? : Option String := none
  origin : SourceOrigin
  heads : List Head
  joining : Joining := {}
  hint? : Option IndexHint := none
  shared? : Option SharedQuery := none
  isView : Bool := false
  /-- Whether its rows depend on a row around the query. -/
  isCorrelated : Bool := false
  /-- What a function that gives rows is called with. -/
  arguments : List Term := []
  /-- The columns of which somebody speaks. -/
  used : List Nat := []

instance : Inhabited QuerySource := ⟨{ cursor := 0, name := "", origin := .found, heads := [] }⟩

namespace QuerySource

/-- The name by which the columns of a source are called. -/
def title (source : QuerySource) : String := source.alias?.getD source.name

/-- The table that a source is. -/
def table? (source : QuerySource) : Option Table :=
  match source.origin with
  | .table table => some table
  | _ => none

/-- The query that a source takes its rows from. -/
def query? (source : QuerySource) : Option Nat :=
  match source.origin with
  | .query number => some number
  | _ => none

/-- Whether its rows are made up by a function or a module. -/
def isSupplied (source : QuerySource) : Bool :=
  match source.origin with
  | .supplier _ => true
  | .table table => table.module?.isSome
  | _ => false

/-- Whether the numbers of rows can be asked for. -/
def hasRowid (source : QuerySource) : Bool :=
  match source.origin with
  | .table table => table.hasRowid && table.view?.isNone
  | .supplier _ => true
  | _ => false

/-- A column of a source, or the number of its rows. -/
def field (source : QuerySource) (column? : Option Nat) : Field :=
  let column? := column?.filter fun n => !(source.heads[n]?.any (·.isRowid))
  match column?.bind fun n => source.heads[n]? with
  | some head =>
    { cursor := source.cursor, column?, name := head.name, affinity? := head.affinity?
      collation? := head.collation?, isBound := head.isBound
      isOuter := source.joining.mayLack }
  | none =>
    { cursor := source.cursor, column? := none
      name := ((source.heads.find? (·.isRowid)).map Head.name).getD "rowid"
      affinity? := some .integer, isBound := true, isOuter := source.joining.mayLack }

end QuerySource

/-- A column of the result of a query. -/
structure QueryResult where
  term : Term
  name : String
  /-- Whether the name was given to it. -/
  isNamed : Bool := false

instance : Inhabited QueryResult := ⟨{ term := default, name := "" }⟩

/-- A condition on rows, and the source that it joins, if it is one: whether rows stay that do not
satisfy it is said as well. -/
structure Condition where
  term : Term
  join? : Option (Nat × Bool) := none

/-- A part of a query: the rows of some sources. -/
structure Branch where
  number : Nat
  isDistinct : Bool := false
  results : List QueryResult
  sources : List QuerySource := []
  conditions : List Condition := []
  groups : List TermOrder := []
  having? : Option Term := none
  /-- Whether rows are put together in groups. -/
  isAggregate : Bool := false
  /-- Whether a least or a greatest value is asked for. -/
  hasExtreme : Bool := false
  /-- Whether the order of rows matters to what is computed from them. -/
  needsOrder : Bool := false
  /-- Whether functions or queries stand in the result. -/
  isComplex : Bool := false
  /-- Whether it finds rows from those that were found before. -/
  isRecursive : Bool := false
  /-- Whether it lists values. -/
  isValues : Bool := false
  /-- Whether it changes a table from other sources. -/
  isUpdate : Bool := false
  /-- Whether it was part of a compound when it was written. -/
  isPart : Bool := false

instance : Inhabited Branch := ⟨{ number := 0, results := [] }⟩

/-- A selection whose names are looked up. -/
structure Query where
  /-- Its branches, each with how it is put together with those before. -/
  branches : List (Compound × Branch)
  order : List TermOrder := []
  limit? : Option Term := none
  offset? : Option Term := none
  /-- Its columns as sources of others have them. -/
  heads : List Head
  isCorrelated : Bool := false

instance : Inhabited Query := ⟨{ branches := [], heads := [] }⟩

namespace Query

/-- The only branch of a query, if it has one. -/
def single? (query : Query) : Option Branch :=
  match query.branches with
  | [(_, branch)] => some branch
  | _ => none

/-- The first branch of a query. -/
def first (query : Query) : Branch := ((query.branches.head?).map (·.2)).getD default

/-- The branch of a query that is written last. -/
def last (query : Query) : Branch := ((query.branches.getLast?).map (·.2)).getD default

/-- The number of columns. -/
def width (query : Query) : Nat := query.first.results.length

end Query

namespace Branch

/-- A branch with other terms in place of its own. -/
def mapTerms (f : Term → Term) (branch : Branch) : Branch :=
  { branch with
    results := branch.results.map fun result => { result with term := f result.term }
    sources := branch.sources.map fun source =>
      { source with arguments := source.arguments.map f }
    conditions := branch.conditions.map fun condition =>
      { condition with term := f condition.term }
    groups := branch.groups.map fun group => group.withTerm (f group.term)
    having? := branch.having?.map f }

/-- A branch with other terms in place of parts of its own. -/
def replace (f : Term → Option Term) (branch : Branch) : Branch :=
  branch.mapTerms (Term.replace f)

/-- All terms of a branch. -/
def terms (branch : Branch) : List Term :=
  branch.results.map (·.term) ++ branch.sources.flatMap (·.arguments)
    ++ branch.conditions.map (·.term) ++ branch.groups.map TermOrder.term ++ branch.having?.toList

/-- The queries inside of a branch. -/
def queries (branch : Branch) : List Nat :=
  branch.terms.flatMap Term.queries ++ branch.sources.filterMap QuerySource.query?

end Branch

namespace Query

/-- A query with other terms in place of its own. -/
def mapTerms (f : Term → Term) (query : Query) : Query :=
  { query with
    branches := query.branches.map fun (op, branch) => (op, branch.mapTerms f)
    order := query.order.map fun order => order.withTerm (f order.term)
    limit? := query.limit?.map f
    offset? := query.offset?.map f }

/-- All terms of a query. -/
def terms (query : Query) : List Term :=
  query.branches.flatMap (·.2.terms) ++ query.order.map TermOrder.term ++ query.limit?.toList
    ++ query.offset?.toList

/-- The queries inside of a query. -/
def queries (query : Query) : List Nat :=
  query.branches.flatMap (·.2.queries)
    ++ (query.order.map TermOrder.term ++ query.limit?.toList ++ query.offset?.toList).flatMap
      Term.queries

end Query

end AppCatalog
