import AppCatalog.Query.Book

/-!
# Copies of queries

A part of a query that is needed twice is copied: in the copy all sources, branches and queries
inside of it have new numbers, so that both can be at hand at the same time.
-/

namespace AppCatalog

/-- New numbers for old ones. -/
structure Renewal where
  cursors : List (Nat × Nat) := []
  branches : List (Nat × Nat) := []
  queries : List (Nat × Nat) := []

namespace Renewal

/-- The number that stands for an old one, which stays if there is none. -/
def renewed (numbers : List (Nat × Nat)) (number : Nat) : Nat :=
  (numbers.lookup number).getD number

/-- A column of the copy of its source. -/
def field (renewal : Renewal) (column : Field) : Field :=
  { column with cursor := renewed renewal.cursors column.cursor }

/-- What the outermost part of a term becomes. -/
def part (renewal : Renewal) : Term → Term
  | .field column => .field (renewal.field column)
  | .fixed column value => .fixed (renewal.field column) value
  | .unlessVacant cursor operand => .unlessVacant (renewed renewal.cursors cursor) operand
  | .inQuery operand query => .inQuery operand (renewed renewal.queries query)
  | .exists query => .exists (renewed renewal.queries query)
  | .scalar query => .scalar (renewed renewal.queries query)
  | .item query count place => .item (renewed renewal.queries query) count place
  | .aggregate owner? function isDistinct arguments order filter? =>
    .aggregate (owner?.map (renewed renewal.branches)) function isDistinct arguments order filter?
  | term => term

/-- A term about copies. -/
def term (renewal : Renewal) (term : Term) : Term :=
  term.transform (fun _ => none) renewal.part

/-- The copy of a source. -/
def source (renewal : Renewal) (source : QuerySource) : QuerySource :=
  { source with
    cursor := renewed renewal.cursors source.cursor
    origin := match source.origin with
      | .query number => .query (renewed renewal.queries number)
      | origin => origin }

/-- The copy of a branch. -/
def branch (renewal : Renewal) (branch : Branch) : Branch :=
  { branch.mapTerms renewal.term with
    number := renewed renewal.branches branch.number
    sources := (branch.mapTerms renewal.term).sources.map renewal.source
    conditions := (branch.mapTerms renewal.term).conditions.map fun condition =>
      { condition with join? := condition.join?.map fun (cursor, isOuter) =>
          (renewed renewal.cursors cursor, isOuter) } }

/-- The copy of a query. -/
def query (renewal : Renewal) (query : Query) : Query :=
  let copy := query.mapTerms renewal.term
  { copy with branches := query.branches.map fun (op, branch) => (op, renewal.branch branch) }

/-- Numbers from one on for old ones. -/
def numbered (start : Nat) (old : List Nat) : List (Nat × Nat) :=
  old.eraseDups.zipIdx.map fun (number, n) => (number, start + n)

end Renewal

/-- The queries of a statement while they are brought into another shape, and how many sources and
branches there are. -/
structure Workshop where
  book : Book
  cursors : Nat
  branches : Nat
  /-- The queries that are known by name, as often as somebody takes rows from them. -/
  shares : List Nat := []
  /-- The queries that are in shape. -/
  finished : List Nat := []

namespace Workshop

/-- The references to queries that are known by name in some branches. -/
def sharesOf (branches : List Branch) : List Nat :=
  branches.flatMap fun branch =>
    branch.sources.filterMap fun source => source.shared?.map (·.number)

/-- The workshop for the queries of a statement. -/
def ofBook (book : Book) (cursors branches : Nat) : Workshop :=
  let all := book.toList.flatMap fun query => query.branches.map (·.2)
  { book, cursors, branches, shares := sharesOf all }

/-- A copy of a branch and of all queries inside of it. One of its sources keeps its number. -/
def copied (workshop : Workshop) (branch : Branch) (kept : Nat) : Workshop × Branch :=
  let book := workshop.book
  let numbers := (book.withInner (book.size + 1) branch.queries).eraseDups
  let inner := numbers.flatMap fun number => (book.query number).branches.map (·.2)
  let all := branch :: inner
  let cursors := (all.flatMap fun branch => branch.sources.map (·.cursor)).filter (· ≠ kept)
  let renewal : Renewal :=
    { cursors := Renewal.numbered workshop.cursors cursors
      branches := Renewal.numbered workshop.branches (all.map (·.number))
      queries := Renewal.numbered book.size numbers }
  ({ workshop with
     book := numbers.foldl (fun book number => book.push (renewal.query (book.query number))) book
     cursors := workshop.cursors + renewal.cursors.length
     branches := workshop.branches + renewal.branches.length
     shares := sharesOf all ++ workshop.shares }, renewal.branch branch)

end Workshop
end AppCatalog
