import AppCatalog.Query.Renewal

/-!
# Terms in place of columns

Where a query takes the place of its source, its own terms stand for the columns of the source. Each
keeps the order of texts that the column had, but does not insist on it. Where there may be no row
of the source, a term that is no column of it is nothing then.
-/

namespace AppCatalog

/-- What is done to bring queries into another shape. -/
abbrev Reshaping : Type → Type := StateT Workshop (Except SqlError)

namespace Term

/-- A term that may have no value. -/
def loosened : Term → Term
  | .field column => .field { column with isOuter := true }
  | term => term

/-- A term that does not insist on its order of texts. -/
def yielding : Term → Term
  | .collate operand collation _ => .collate operand collation false
  | term => term

/-- Whether a term is a column, or has an order of texts outermost. -/
def isOrdered : Term → Bool
  | .field _ => true
  | .collate .. => true
  | _ => false

/-- The complaint about a term that does not stand for a single value, if it does not. -/
def severalness? (book : Book) : Term → Option SqlError
  | .row (_ :: _ :: _) => some (.senseless "row value misused")
  | .scalar number =>
    let width := book.width number
    if width = 1 then none
    else some (.senseless ("sub-select returns " ++ toString width ++ " columns - expected 1"))
  | _ => none

end Term

/-- Terms that stand in place of the columns of a source. -/
structure Exchange where
  cursor : Nat
  /-- The source that the terms are about, where it makes a difference. -/
  next : Nat
  terms : List Term
  /-- The orders of texts of the columns. -/
  collations : List (Option Collation)
  /-- Whether there may be no row of the source. -/
  isOuter : Bool := false

namespace Exchange

/-- The term in place of a column. -/
def column (exchange : Exchange) (column? : Option Nat) : Term :=
  match column? with
  | none => .constant .null
  | some n =>
    let own : Term := exchange.terms.getD n (.constant .null)
    let isNext := match own with
      | .field column => column.cursor = exchange.next
      | _ => false
    let term := if exchange.isOuter && !isNext then .unlessVacant exchange.next own else own
    let term := if exchange.isOuter then term.loosened else term
    let term : Term := match term with
      | .truth value => .constant (.integer (if value then 1 else 0))
      | term => term
    let collation? := exchange.collations.getD n none
    let term :=
      if term.collation? ≠ collation? || !term.isOrdered then
        .collate term (collation?.getD .binary) false
      else term
    term.yielding

/-- A term in which columns are exchanged. -/
def term (exchange : Exchange) (term : Term) : Term :=
  term.transform
    (fun part => match part with
      | .field column =>
        if column.cursor = exchange.cursor then some (exchange.column column.column?) else none
      | _ => none)
    (fun part => match part with
      | .unlessVacant cursor operand =>
        .unlessVacant (if cursor = exchange.cursor then exchange.next else cursor) operand
      | part => part)

/-- A branch in which columns are exchanged. -/
def branch (exchange : Exchange) (branch : Branch) : Branch :=
  let changed := branch.mapTerms exchange.term
  { changed with conditions := changed.conditions.map fun condition =>
      { condition with join? := condition.join?.map fun (cursor, isOuter) =>
          (if cursor = exchange.cursor then exchange.next else cursor, isOuter) } }

/-- Checks that each column which somebody asks for has a single value. -/
def check (exchange : Exchange) (book : Book) (terms : List Term) : Except SqlError Unit := do
  for term in terms do
    for column in term.fields do
      if column.cursor = exchange.cursor then
        let own := column.column?.bind (exchange.terms[·]?)
        if let some cause := own.bind (Term.severalness? book) then throw cause

/-- Exchanges columns in a branch and all queries inside of it. -/
def apply (exchange : Exchange) (branch : Branch) (order : List TermOrder) :
    Reshaping (Branch × List TermOrder) := do
  let state ← get
  let book := state.book
  let own := order.map TermOrder.term
  let asked := branch.queries ++ own.flatMap Term.queries
  let inner := (book.withInner (book.size + 1) asked).eraseDups
  let terms := branch.terms ++ own ++ inner.flatMap fun number => (book.query number).terms
  exchange.check book terms
  let book := inner.foldl (fun (book : Book) number =>
    let query := book.query number
    let changed := query.mapTerms exchange.term
    let branches := query.branches.map fun (op, branch) => (op, exchange.branch branch)
    book.setIfInBounds number { changed with branches }) book
  set { state with book }
  return (exchange.branch branch, order.map fun order => order.withTerm (exchange.term order.term))

end Exchange
end AppCatalog
