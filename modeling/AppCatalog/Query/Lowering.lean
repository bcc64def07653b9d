import AppCatalog.Query.Implied

/-!
# Conditions handed down

What is asked of the rows of an inner query alone is asked of them inside of it, before they are
ordered or put together; it is still asked outside. And what nobody asks for need not be computed.
-/

namespace AppCatalog

namespace Term

/-- Whether a term is the same for equal rows of a source: columns of others, and queries that depend
on rows around them, are not. -/
def isAboutOnly (book : Book) (cursor : Nat) (term : Term) : Bool :=
  !term.any fun part =>
    match part with
    | .inQuery _ number => (book.query number).isCorrelated
    | .exists number => (book.query number).isCorrelated
    | .scalar number => (book.query number).isCorrelated
    | .item number _ _ => (book.query number).isCorrelated
    | part => !isSteadyPart (· = cursor) part

/-- Whether a term is the same for all rows that have the same values in some terms. -/
def isConstantOver (terms : List Term) (term : Term) : Bool :=
  let isKey (part : Term) : Bool := terms.any fun key =>
    part.likeness key ≠ .different && key.collation?.all (· = .binary)
  let rest := term.replace fun part => if isKey part then some (.constant .null) else none
  rest.isConstant

/-- By what the rows are taken apart that a window looks at. -/
def partitions (term : Term) : List (List Term) :=
  term.collect fun part =>
    match part with
    | .window _ _ _ (.mk partition _ _ _ _) => [partition]
    | _ => []

end Term

namespace Query

/-- By what rows are taken apart that windows look at. -/
def partitions (query : Query) : List (List Term) :=
  query.branches.flatMap fun (_, branch) => branch.results.flatMap (·.term.partitions)

/-- Whether conditions may be handed down to a query. -/
def takesConditions (query : Query) (source : QuerySource) : Bool :=
  let joining := source.joining
  let partitions := query.partitions
  let isSame (a b : List Term) : Bool := Term.Likeness.ofLists Term.likeness a b = .same
  let isPlain := query.branches.all fun (_, branch) =>
    branch.results.all fun result => result.term.collation?.all (· = .binary)
  !(query.last.isRecursive || joining.isBeforeRight || joining.keepsRight
    || query.limit?.isSome
    || 1 < query.branches.length && (!partitions.isEmpty || !query.keepsAll && !isPlain)
    || query.branches.length ≤ 1 && partitions.any fun partition =>
      partition.isEmpty || !isSame partition (partitions.headD []))

end Query

namespace Branch

/-- Whether a condition of a branch is one about a source alone that may be asked inside of it. -/
def isHandedDown (branch : Branch) (book : Book) (n : Nat) (source : QuerySource)
    (condition : Condition) : Bool :=
  let isRight := branch.sources.head?.any (·.joining.isBeforeRight)
  let isMeant := match condition.join? with
    | some (cursor, true) => source.joining.keepsLeft && cursor = source.cursor
    | some (cursor, false) =>
      !source.joining.keepsLeft && !(isRight && (branch.sources.take n).any fun before =>
        before.cursor = cursor && before.joining.isBeforeRight)
    | none => !source.joining.keepsLeft
  isMeant && condition.term.isAboutOnly book source.cursor

/-- The branch of an inner query with one more condition. -/
def withCondition (branch : Branch) (term : Term) : Branch :=
  if branch.isAggregate then
    { branch with having? := some (match branch.having? with
        | some having => .binary .and having term
        | none => term) }
  else { branch with conditions := branch.conditions ++ [{ term }] }

/-- The columns of a source that a branch asks for, also inside of other queries. -/
def askedColumns (branch : Branch) (book : Book) (more : List Term) (cursor : Nat) : List Nat :=
  let asked := branch.queries ++ more.flatMap Term.queries
  let inner := (book.withInner (book.size + 1) asked).eraseDups
  let terms := branch.terms ++ more ++ inner.flatMap fun number => (book.query number).terms
  (terms.flatMap Term.fields).filterMap fun field =>
    if field.cursor = cursor then field.column? else none

end Branch

namespace Query

/-- A query with the conditions that its arms have when columns of a source are asked for. -/
def withConditions (query : Query) (source : QuerySource) (condition : Term) :
    Reshaping Query := do
  let collations := query.first.results.map (·.term.collation?)
  let isOver (branch : Branch) (term : Term) : Bool :=
    match branch.results.flatMap (·.term.partitions) with
    | partition :: _ => term.isConstantOver partition
    | [] => true
  let isTaken := query.branches.all fun (_, branch) =>
    let exchange : Exchange :=
      { cursor := source.cursor, next := source.cursor, terms := branch.results.map (·.term)
        collations }
    isOver branch (exchange.term condition)
  if !isTaken then return query
  else
    let branches ← query.branches.mapM fun (op, branch) => do
      let exchange : Exchange :=
        { cursor := source.cursor, next := source.cursor, terms := branch.results.map (·.term)
          collations }
      exchange.check (← get).book [condition]
      return (op, branch.withCondition (exchange.term condition))
    return { query with branches }

/-- A query in which nothing is computed that nobody asks for. -/
def pruned (query : Query) (source : QuerySource) (asked : List Nat) : Query :=
  let isFit (branch : Branch) : Bool :=
    !branch.isDistinct && !branch.isAggregate && !branch.hasWindow
  let isWhole := source.isCorrelated || source.shared?.isSome || !query.keepsAll
  if isWhole || query.branches.any (!isFit ·.2) then query
  else
    let ordered := query.order.filterMap TermOrder.place?
    let place (n : Nat) : Nat := min n 63
    let used := (asked ++ ordered).map place
    let prune (branch : Branch) : Branch :=
      { branch with results := branch.results.zipIdx.map fun (result, n) =>
          if used.contains (place n) then result else { result with term := .constant .null } }
    { query with branches := query.branches.map fun (op, branch) => (op, prune branch) }

end Query
end AppCatalog
