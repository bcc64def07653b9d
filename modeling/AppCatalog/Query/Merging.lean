import AppCatalog.Query.Exchange

/-!
# Queries merged with their sources

A query whose source is another query may take the sources of the latter for its own, so that all of
them are gone through at once. That must not change which rows there are: where the inner query puts
rows together, orders them or counts them, it mostly stays as it is. If it has several branches of
which all rows are kept, so has the outer one then.
-/

namespace AppCatalog

namespace Term

/-- The windows in a term. -/
def hasWindow (term : Term) : Bool :=
  term.any fun part =>
    match part with
    | .window .. => true
    | _ => false

/-- What is made of values that a term is compared with; whether a column says nothing about it is
told from other terms that say nothing. -/
def affinityMark (inner : Nat → Nat → Option Affinity) (term : Term) : Option Affinity × Bool :=
  let isColumn := match term.uncollated with
    | .field _ => true
    | .fixed .. => true
    | _ => false
  (term.affinity? inner, isColumn && (term.affinity? inner).isNone)

end Term

namespace QuerySource

/-- Whether its rows are kept apart from what asks for them. -/
def isApart (source : QuerySource) : Bool :=
  source.shared?.any fun shared => shared.isApart? = some true

end QuerySource

namespace Branch

/-- Whether functions look at the rows around a row. -/
def hasWindow (branch : Branch) : Bool := branch.results.any (·.term.hasWindow)

end Branch

namespace Query

/-- Whether functions look at the rows around a row. -/
def hasWindow (query : Query) : Bool :=
  query.branches.any (·.2.hasWindow) || query.order.any (·.term.hasWindow)

/-- Whether all branches but the first keep all rows. -/
def keepsAll (query : Query) : Bool := (query.branches.drop 1).all fun (op, _) => op = .unionAll

/-- Whether the branches make different things of the same value. -/
def isMixed (query : Query) (book : Book) : Bool :=
  let marks (branch : Branch) : List (Option Affinity × Bool) :=
    branch.results.map fun result => result.term.affinityMark book.inner
  query.branches.any fun (_, branch) => marks branch ≠ marks query.last

end Query

/-- A query with one branch that may take the sources of its sources. -/
structure Host where
  branch : Branch
  order : List TermOrder := []
  limit? : Option Term := none
  offset? : Option Term := none
  /-- Whether the order of rows does not matter. -/
  ignoresOrder : Bool := false
  /-- Whether it stands inside of what looks at the rows around a row. -/
  isInner : Bool := false

namespace Host

/-- Whether a query with one branch can be taken in place of a source. -/
def mayTakeBranch (host : Host) (n : Nat) (source : QuerySource) (inner : Query) : Bool :=
  let outer := host.branch
  let last := inner.last
  let first := last.sources.headD default
  let joining := source.joining
  let isLimited := inner.limit?.isSome
  let isLoose := joining.isOuter || joining.isBeforeRight
  !(inner.hasWindow
    || isLimited && host.limit?.isSome
    || inner.offset?.isSome
    || outer.isPart && isLimited
    || last.sources.isEmpty
    || last.isDistinct
    || isLimited && (1 < outer.sources.length || outer.isAggregate)
    || !host.order.isEmpty && !inner.order.isEmpty
    || (outer.isAggregate || host.isInner) && !inner.order.isEmpty
    || isLimited && !outer.conditions.isEmpty
    || isLimited && outer.isDistinct
    || last.isRecursive
    || isLoose && (1 < last.sources.length || first.isSupplied || outer.isDistinct
      || joining.keepsRight)
    || 0 < n && first.joining.isBeforeRight)

/-- Whether a query with several branches can be taken in place of a source. -/
def mayTakeAll (host : Host) (book : Book) (n : Nat) (source : QuerySource) (inner : Query) :
    Bool :=
  let outer := host.branch
  let isLoose := source.joining.isOuter || source.joining.isBeforeRight
  let isFit (branch : Branch) : Bool :=
    !branch.isDistinct && !branch.isAggregate && !branch.sources.isEmpty
      && !(0 < n && (branch.sources.headD default).joining.isBeforeRight)
  inner.order.isEmpty && !host.isInner && !outer.isAggregate && !outer.isDistinct && !isLoose
    && inner.keepsAll && inner.branches.all (fun (_, branch) => isFit branch)
    && host.order.all (·.place?.isSome) && !outer.isRecursive && !inner.isMixed book

/-- Whether a query can be taken in place of a source. -/
def mayTake (host : Host) (book : Book) (n : Nat) (source : QuerySource) (inner : Query) : Bool :=
  host.mayTakeBranch n source inner
    && (inner.branches.length ≤ 1 || host.mayTakeAll book n source inner)

/-- A branch with the sources of another one in place of one of its own. The way in which that is
joined is kept for the first of them, if it is said. -/
def joined (branch : Branch) (n : Nat) (source : QuerySource) (inner : Branch)
    (keepsJoining : Bool) : Branch :=
  let isBeforeRight := source.joining.isBeforeRight
  let moved := inner.sources.zipIdx.map fun (own, m) =>
    let joining :=
      if m ≠ 0 then own.joining else if keepsJoining then source.joining else {}
    { own with joining := { joining with
        isBeforeRight := joining.isBeforeRight || isBeforeRight
          || m = 0 && own.joining.isBeforeRight } }
  let first := (inner.sources.headD default).cursor
  let conditions := inner.conditions.map fun condition =>
    if source.joining.isOuter || isBeforeRight then { condition with join? := some (first, true) }
    else condition
  { branch with
    sources := branch.sources.take n ++ moved ++ branch.sources.drop (n + 1)
    conditions := conditions ++ branch.conditions
    isPart := branch.isPart || inner.isPart }

/-- Takes a branch in place of a source. -/
def takeBranch (host : Host) (n : Nat) (source : QuerySource) (inner : Branch)
    (order : List TermOrder) (collations : List (Option Collation)) (keepsJoining : Bool) :
    Reshaping Host := do
  let exchange : Exchange :=
    { cursor := source.cursor
      next := (inner.sources.headD default).cursor
      terms := inner.results.map (·.term)
      collations
      isOuter := source.joining.isOuter || source.joining.isBeforeRight }
  let (branch, own) ← exchange.apply host.branch host.order
  let taken := order.map fun one => TermOrder.mk one.term one.descending one.movesNull none
  let order := if host.ignoresOrder || taken.isEmpty then own else taken
  return { host with branch := joined branch n source inner keepsJoining, order }

/-- Takes a query in place of a source; the branches that come of it, the last of which keeps what
is said about the whole. -/
def take (host : Host) (n number : Nat) (source : QuerySource) : Reshaping (List Branch × Host) := do
  let inner := (← get).book.query number
  let collations := inner.first.results.map (·.term.collation?)
  let others := (inner.branches.dropLast).map (·.2)
  let copies ← others.mapM fun arm => do
    let copy ← modifyGet fun state =>
      let (state, copy) := state.copied host.branch source.cursor
      (copy, state)
    let single ← ({ host with branch := copy, order := [] } : Host).takeBranch n source arm []
      collations false
    return single.branch
  let host ← host.takeBranch n source inner.last inner.order collations true
  modify fun state => { state with book := state.book.setIfInBounds number default }
  let host :=
    if inner.limit?.isSome then { host with limit? := inner.limit?, offset? := inner.offset? }
    else host
  return (copies.map fun branch => { branch with isPart := true }, { host with
    branch := if copies.isEmpty then host.branch else { host.branch with isPart := true } })

end Host
end AppCatalog
