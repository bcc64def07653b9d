import AppCatalog.Query.Basic

/-!
# The queries of a statement

Queries inside of queries are told by their numbers. What is to be known about a query that depends
on others is said here: what its columns are like, which queries are inside of it, and of which
sources around it it speaks.
-/

namespace AppCatalog

/-- What somebody wants of the rows of a query. -/
inductive Usage where
  /-- All of them, in order. -/
  | rows
  /-- Whether there is one. -/
  | existence
  /-- The first one. -/
  | single
  /-- Nothing. -/
  | nothing
  deriving Repr, DecidableEq

namespace Term

/-- The queries that stand in a term itself, with what it wants of them. -/
def usages (term : Term) : List (Nat × Usage) :=
  term.collect fun part =>
    match part with
    | .inQuery _ query => [(query, .rows)]
    | .exists query => [(query, .existence)]
    | .scalar query => [(query, .single)]
    | .item query _ _ => [(query, .single)]
    | _ => []

/-- The sources of which a term itself speaks. -/
def cursors (term : Term) : List Nat :=
  term.collect fun part =>
    match part with
    | .field column => if column.isScanned then [column.cursor] else []
    | .unlessVacant cursor _ => [cursor]
    | _ => []

/-- The functions of groups of rows of a branch in a term. -/
def aggregatesOf (branch : Nat) (term : Term) : List Term :=
  term.collect fun part =>
    match part with
    | .aggregate owner? .. => if owner? = some branch then [part] else []
    | _ => []

end Term

/-- The queries of a statement by number. -/
abbrev Book : Type := Array Query

namespace Book

/-- The query of that number. -/
def query (book : Book) (number : Nat) : Query := book.getD number default

/-- What a column of a query makes of values that it is compared with, found in so many rounds. -/
def innerIn (book : Book) : (rounds number place : Nat) → Option Affinity
  | 0, _, _ => none
  | rounds + 1, number, place =>
    ((book.query number).last.results[place]?).bind fun result =>
      result.term.affinity? (innerIn book rounds)

/-- What a column of a query makes of values that it is compared with. -/
def inner (book : Book) (number place : Nat) : Option Affinity :=
  book.innerIn (book.size + 1) number place

/-- The number of columns of a query. -/
def width (book : Book) (number : Nat) : Nat := (book.query number).width

/-- Some queries and those inside of them, found in so many rounds. -/
def withInner (book : Book) : (rounds : Nat) → List Nat → List Nat
  | 0, _ => []
  | rounds + 1, numbers =>
    numbers.flatMap fun number => number :: book.withInner rounds (book.query number).queries

/-- The columns of sources that a query speaks of, also inside of other queries, but for those of
its own sources and theirs, found in so many rounds. -/
def outerCursors (book : Book) : (rounds : Nat) → List Term → List Nat
  | 0, _ => []
  | rounds + 1, terms =>
    let own := terms.flatMap Term.cursors
    let inner := (terms.flatMap Term.queries).flatMap fun number =>
      let query := book.query number
      let branches := query.branches.map (·.2)
      let cursors := branches.flatMap fun branch => branch.sources.map QuerySource.cursor
      let parts := branches.flatMap Branch.terms ++ query.order.map TermOrder.term
      let sources := branches.flatMap fun branch => branch.sources.filterMap QuerySource.query?
      (book.outerCursors rounds (parts ++ sources.map Term.exists)).filter
        (!cursors.contains ·)
    own ++ inner

/-- Whether terms speak of some sources, if they speak of any. -/
def speaksOf? (book : Book) (cursors : List Nat) (terms : List Term) : Option Bool :=
  let found := book.outerCursors (book.size + 1) terms
  if found.isEmpty then none else some (found.any cursors.contains)

/-- What is known of the columns of some branches, first to last: what they make of values that
they are compared with, and the order of their texts. -/
def columnKinds (book : Book) (branches : List Branch) (n : Nat) :
    Option Affinity × Option Collation :=
  let terms := branches.filterMap fun branch => (branch.results[n]?).map QueryResult.term
  let silent := terms.takeWhile fun term => (term.affinity? book.inner).isNone
  let others := terms.drop (silent.length + 1)
  let affinity? := (terms[silent.length]?).bind (·.affinity? book.inner)
  let kinds := ((silent ++ others).map (Term.kinds book.inner)).foldl Term.Kinds.union {}
  let affinity? := affinity?.map fun affinity =>
    if affinity = .text && kinds.number then .blob
    else if affinity.isNumeric && kinds.text then .blob
    else affinity
  let collation? := (terms.head?).bind Term.collation?
  (affinity?, some (collation?.getD .binary))

/-- Columns with what is known of those of a query. -/
def withKinds (book : Book) (query : Query) (heads : List Head) : List Head :=
  heads.zipIdx.map fun (head, n) =>
    let (affinity?, collation?) := book.columnKinds (query.branches.map (·.2)) n
    { head with affinity?, collation? }

end Book
end AppCatalog
