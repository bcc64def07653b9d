import AppCatalog.Query.Book
import AppCatalog.Query.Plan

/-!
# Stages of a branch

What a branch computes in turn: first what functions make of groups of rows, then what functions
make of the rows around a row. What they make of them stands in sources of their own, from which
everything else takes it, also queries inside of the branch.
-/

namespace AppCatalog

/-- What a branch computes in turn. -/
structure Stages where
  /-- The source for what functions make of groups, and the functions. -/
  groups? : Option (Nat × List Term) := none
  /-- What functions make of the rows around a row, the innermost first. -/
  surroundings : List Surrounding := []

/-- How far the stages of the branches of a statement are known. -/
structure Staging where
  book : Book
  /-- The number of sources so far. -/
  cursors : Nat
  /-- The stages of branches, by their numbers. -/
  stages : List (Nat × Stages) := []

namespace Term

/-- A column of a source that holds what a function made of rows. -/
def computed (cursor place : Nat) (function : Term) : Term :=
  let collation? := function.collation?
  let field : Term := .field { cursor, column? := some place, name := "", collation? }
  match function.isCollated, collation? with
  | true, some collation => .collate field collation true
  | _, _ => field

/-- Terms without those that are the same as one before them. -/
def single (terms : List Term) : List Term :=
  (terms.foldl (fun (found : List Term) term =>
    if found.any (isSame term) then found else term :: found) []).reverse

/-- What stands in place of some functions. -/
def inPlaceOf (cursor : Nat) (functions : List Term) (part : Term) : Option Term :=
  (functions.findIdx? (isSame part)).map fun n => computed cursor n part

/-- The functions of rows around a row in a term. -/
def windows (term : Term) : List Term :=
  term.collect fun part =>
    match part with
    | .window .. => [part]
    | _ => []

/-- Whether two functions look at the same rows. -/
def sameRows (a b : Term) : Bool :=
  match a, b with
  | .window _ _ _ pane, .window _ _ _ pane' =>
    isSame (.window "" [] none pane) (.window "" [] none pane')
  | _, _ => false

end Term

namespace Query

/-- A query with other terms in place of parts of its own. -/
def replace (f : Term → Option Term) (query : Query) : Query := query.mapTerms (Term.replace f)

end Query

namespace Staging

/-- Finds the stages of functions of groups of a branch. -/
def group (staging : Staging) (branch : Branch) : Staging × Option (Nat × List Term) :=
  let terms := staging.book.toList.flatMap Query.terms
  let found := terms.flatMap (Term.aggregatesOf branch.number)
  if branch.groups.isEmpty && found.isEmpty then (staging, none)
  else
    let functions := Term.single found
    let cursor := staging.cursors
    let book := staging.book.map (·.replace (Term.inPlaceOf cursor functions))
    ({ staging with book, cursors := cursor + 1 }, some (cursor, functions))

/-- Finds the stages of functions of rows around a row: those that look at the same rows as the
first one come last. -/
def surround : (rounds : Nat) → (cursors : Nat) → (windows : List Term) → List Surrounding × Nat
  | 0, cursors, _ => ([], cursors)
  | _, cursors, [] => ([], cursors)
  | rounds + 1, cursors, first :: rest =>
    let functions := first :: rest.filter (Term.sameRows first)
    let others := rest.filter (!Term.sameRows first ·)
    let (inner, cursors) := surround rounds cursors others
    match first with
    | .window _ _ _ pane => (inner ++ [{ cursor := cursors, functions, pane }], cursors + 1)
    | _ => (inner, cursors)

/-- Finds the stages of a branch of a query. -/
def branch (staging : Staging) (number place : Nat) : Staging :=
  let branchOf (book : Book) : Branch :=
    (((book.query number).branches[place]?).map (·.2)).getD default
  let key := (branchOf staging.book).number
  let (staging, groups?) := staging.group (branchOf staging.book)
  let query := staging.book.query number
  let branch := branchOf staging.book
  let terms := branch.results.map (·.term) ++
    (if query.branches.length = 1 then query.order.map TermOrder.term else [])
  let windows := Term.single (terms.flatMap Term.windows)
  let (surroundings, cursors) := surround windows.length staging.cursors windows
  let place? (part : Term) : Option Term :=
    surroundings.findSome? fun one => Term.inPlaceOf one.cursor one.functions part
  let replaced : Branch :=
    { branch with results := branch.results.map fun result =>
        { result with term := result.term.replace place? } }
  let query := { query with
    branches := query.branches.set place ((((query.branches[place]?).map (·.1)).getD .unionAll),
      replaced)
    order := Term.replaceOrder place? query.order }
  { book := staging.book.setIfInBounds number query, cursors
    stages := (key, { groups?, surroundings }) :: staging.stages }

/-- Finds the stages of all branches of a statement with so many sources. -/
def ofBook (book : Book) (cursors : Nat) : Staging :=
  (List.range book.size).foldl (fun staging number =>
    (List.range (book.query number).branches.length).foldl (fun staging place =>
      staging.branch number place) staging) { book, cursors }

/-- The stages of a branch. -/
def stagesOf (staging : Staging) (branch : Branch) : Stages :=
  (staging.stages.lookup branch.number).getD {}

end Staging
end AppCatalog
