import AppCatalog.Query.Lowering

/-!
# Queries in a simpler shape

A query is brought into the shape in which its rows are looked for, from the outside in: sources are
merged with it, conditions are handed down to those that stay, and what nobody asks for is left out.
What is wrong with a query only then is told on the way.
-/

namespace AppCatalog

namespace Query

/-- A query of which somebody wants something. -/
def usedFor (query : Query) (usage : Usage) : Query :=
  let ignores := usage = .existence || usage = .nothing
  let zero : Term := .constant (.integer 0)
  let limit? : Option Term :=
    if usage = .existence || usage = .single then
      some (match query.limit? with
        | some limit => .binary .ne limit zero
        | none => .constant (.integer 1))
    else query.limit?
  if !ignores then { query with limit? }
  else
    let last := query.branches.length - 1
    { query with
      limit?, order := []
      branches := query.branches.zipIdx.map fun ((op, branch), n) =>
        (op, if n = last then { branch with isDistinct := false } else branch) }

/-- The order of texts of a column, by the first branch that says something about it. -/
def collationAt (query : Query) (n : Nat) : Collation :=
  (query.branches.findSome? fun (_, branch) =>
    (branch.results[n]?).bind (·.term.collation?)).getD .binary

/-- What the rows of one of several branches are ordered by. -/
def armOrder (query : Query) (branch : Branch) : List TermOrder :=
  query.order.map fun order =>
    let place := order.place?.getD 0
    let collation? := if order.term.isCollated then order.term.collation? else none
    let term := ((branch.results[place]?).map (·.term)).getD (.constant .null)
    .mk (.collate term (collation?.getD (query.collationAt place)) true) order.descending
      order.movesNull (some place)

end Query

namespace Branch

/-- By what the rows are ordered that the first windows look at. -/
def paneOrder (branch : Branch) : List TermOrder :=
  (branch.results.flatMap fun result => result.term.collect fun part =>
    match part with
    | .window _ _ _ (.mk partition order _ _ _) =>
      partition.map (TermOrder.mk · false false none) ++ order
    | _ => [])

/-- Whether a term is one that counts all rows. -/
def countsAll (term : Term) : Bool :=
  match term with
  | .aggregate _ function false [] [] none => function.toLower = "count"
  | _ => false

end Branch

namespace Host

/-- What takes the sources of the sources of a branch. -/
def ofBranch (branch : Branch) (order : List TermOrder) (limit? offset? : Option Term)
    (usage : Usage) : Host :=
  if branch.hasWindow then
    let inner := { branch with
      isDistinct := false, isComplex := false, isPart := false, needsOrder := true }
    { branch := inner, order := branch.paneOrder, isInner := true }
  else
    { branch, order, limit?, offset?
      ignoresOrder := usage = .existence || usage = .nothing }

/-- The order of an inner query, unless it makes no difference. -/
def orderWithin (host : Host) (inner : Query) : List TermOrder :=
  let isOrdered := !host.order.isEmpty || 1 < host.branch.sources.length
  let isNeeded := inner.limit?.isSome || inner.last.needsOrder || inner.last.isRecursive
    || host.branch.needsOrder
  if isOrdered && !isNeeded then [] else inner.order

/-- Whether an inner query is left as it is so that as little as possible is computed. -/
def leaves (host : Host) (n : Nat) (inner : Query) : Bool :=
  let next := (host.branch.sources[1]?).map (·.joining)
  !inner.order.isEmpty && n = 0 && host.branch.isComplex
    && next.all fun joining => joining.isOuter || joining.isOrdered

end Host

namespace Reshaping

/-- Puts a query in place of another one. -/
def setQuery (number : Nat) (query : Query) : Reshaping Unit :=
  modify fun state => { state with book := state.book.setIfInBounds number query }

/-- Keeps one more query. -/
def keep (query : Query) : Reshaping Nat :=
  modifyGet fun state => (state.book.size, { state with book := state.book.push query })

/-- Merges sources from one on. -/
def mergeFrom : (rounds n : Nat) → Host → Reshaping (List Branch × Host)
  | 0, _, host => return ([], host)
  | rounds + 1, n, host => do
    if host.branch.sources.length ≤ n then return ([], host)
    let host := { host with branch := host.branch.strengthened n }
    let source := host.branch.sources.getD n default
    match source.query? with
    | none => mergeFrom rounds (n + 1) host
    | some number =>
      let inner := (← get).book.query number
      if source.heads.length ≠ inner.width then
        throw (.senseless ("expected " ++ toString source.heads.length ++ " columns for '"
          ++ source.name ++ "' but got " ++ toString inner.width))
      if source.isApart || inner.last.isAggregate then mergeFrom rounds (n + 1) host
      else
        let inner := { inner with order := host.orderWithin inner }
        setQuery number inner
        if !host.leaves n inner && host.mayTake (← get).book n source inner then
          let (others, host) ← host.take n number source
          if others.isEmpty then mergeFrom rounds 0 host else return (others, host)
        else mergeFrom rounds (n + 1) host

/-- The greatest number of merges of a branch. -/
def maxMerges : Nat := 100000

/-- Counts the rows of all branches of the only source one by one, if that is all that is asked
for. -/
def countApart (branch : Branch) (order : List TermOrder) : Reshaping Branch := do
  let book := (← get).book
  let isPlain := branch.isAggregate && branch.conditions.isEmpty && branch.having?.isNone
    && branch.groups.isEmpty && order.isEmpty
  match isPlain, branch.results, branch.sources with
  | true, [result], [source] =>
    let inner := (source.query?.map book.query).getD default
    let isFit (arm : Branch) : Bool := arm.conditions.isEmpty && !arm.isAggregate
    if !Branch.countsAll result.term || source.shared?.isSome || inner.branches.length < 2
        || !inner.keepsAll || inner.limit?.isSome || inner.branches.any (!isFit ·.2) then
      return branch
    else
      let counts ← inner.branches.mapM fun (_, arm) => do
        let term : Term := .aggregate (some arm.number) "count" false [] [] none
        let counting := { arm with
          results := [{ term, name := "" }], isAggregate := true, isPart := false }
        return Term.scalar (← keep { branches := [(.unionAll, counting)], heads := [] })
      let total := match counts.reverse with
        | last :: before => before.foldl (fun total one => Term.binary .add one total) last
        | [] => result.term
      return { branch with results := [{ result with term := total }], sources := []
                           isAggregate := false }
  | _, _, _ => return branch

/-- Checks that no function of groups of rows stands where rows are chosen, nor where there are no
groups. -/
def checkAggregates (branch : Branch) (order : List TermOrder) : Reshaping Unit := do
  let book := (← get).book
  let own := branch.conditions.map (·.term) ++
    if branch.isAggregate then [] else order.map TermOrder.term
  let inner := (book.withInner (book.size + 1) (own.flatMap Term.queries)).eraseDups
  let terms := own ++ inner.flatMap fun number => (book.query number).terms
  match terms.flatMap (Term.aggregatesOf branch.number) with
  | .aggregate _ function .. :: _ =>
    throw (.senseless ("misuse of aggregate: " ++ function ++ "()"))
  | _ => return

/-- Hands conditions down to the query that a source is, and leaves out of it what nobody asks
for. -/
def lower (branch : Branch) (order : List TermOrder) (n : Nat) (source : QuerySource)
    (number : Nat) : Reshaping Unit := do
  let state ← get
  let asked := branch.askedColumns state.book (order.map TermOrder.term) source.cursor
  let isAlone := source.shared?.all fun shared =>
    shared.isApart? ≠ some true && state.shares.count shared.number < 2
  if isAlone then
    for condition in branch.splitConditions.reverse do
      let inner := (← get).book.query number
      if inner.takesConditions source
          && branch.isHandedDown (← get).book n source condition then
        setQuery number (← inner.withConditions source condition.term)
  let inner := (← get).book.query number
  setQuery number (inner.pruned source asked)

mutual

/-- Brings the query of that number into shape, of which somebody wants something. -/
def query : (rounds number : Nat) → Usage → Reshaping Unit
  | 0, _, _ => throw (.senseless "parser stack overflow")
  | rounds + 1, number, usage => do
    if (← get).finished.contains number then return
    modify fun state => { state with finished := number :: state.finished }
    let own := ((← get).book.query number).usedFor usage
    setQuery number own
    match own.branches with
    | [(op, branch)] =>
      let (others, host) ←
        mergeFrom maxMerges 0 (.ofBranch branch own.order own.limit? own.offset? usage)
      let whole := if branch.hasWindow then { own with branches := [] } else
        { own with order := host.order, limit? := host.limit?, offset? := host.offset? }
      let inner := if branch.hasWindow then
          { host.branch with isDistinct := branch.isDistinct, isComplex := branch.isComplex
                             isPart := branch.isPart, needsOrder := branch.needsOrder }
        else host.branch
      if others.isEmpty then
        let inner ← finish rounds inner whole.order
        setQuery number { whole with branches := [(op, inner)] }
      else
        let branches := (others ++ [inner]).map fun branch => (Compound.unionAll, branch)
        setQuery number { whole with branches }
        arms rounds number
    | _ => arms rounds number
    let own := (← get).book.query number
    let limits := own.limit?.toList ++ own.offset?.toList
    for (inner, usage) in limits.flatMap Term.usages do query rounds inner usage

/-- Brings the branches of a query with several branches into shape. -/
def arms : (rounds number : Nat) → Reshaping Unit
  | 0, _ => throw (.senseless "parser stack overflow")
  | rounds + 1, number => do
    let own := (← get).book.query number
    let mut found : List (Compound × Branch) := []
    for (op, branch) in own.branches do
      let parts ← arm rounds own branch
      if parts.length = 1 || own.keepsAll then
        found := found ++ parts.zipIdx.map fun (part, n) => (if n = 0 then op else .unionAll, part)
      else
        found := found ++ [(op, ← gathered branch parts)]
    setQuery number { own with branches := found }

/-- Brings one of several branches into shape. It may become several. -/
def arm : (rounds : Nat) → Query → Branch → Reshaping (List Branch)
  | 0, _, _ => throw (.senseless "parser stack overflow")
  | rounds + 1, own, branch => do
    let order := own.armOrder branch
    let limit? := if own.keepsAll && order.isEmpty then own.limit? else none
    let (others, host) ← mergeFrom maxMerges 0 (.ofBranch branch order limit? none .rows)
    let inner := if branch.hasWindow then
        { host.branch with isDistinct := branch.isDistinct, isComplex := branch.isComplex
                           isPart := branch.isPart, needsOrder := branch.needsOrder }
      else host.branch
    if others.isEmpty then return [← finish rounds inner order]
    else return (← (others ++ [inner]).mapM (arm rounds own)).flatten

/-- A branch that takes its rows from several others. -/
def gathered (branch : Branch) (parts : List Branch) : Reshaping Branch := do
  let number ← keep { branches := parts.map fun part => (.unionAll, part), heads := [] }
  let state ← get
  set { state with cursors := state.cursors + 1, branches := state.branches + 1
                   finished := number :: state.finished }
  let heads := state.book.withKinds (state.book.query number)
    (branch.results.map fun result => { name := result.name })
  let source : QuerySource :=
    { cursor := state.cursors, name := "", origin := .query number, heads }
  let results := branch.results.zipIdx.map fun (result, n) =>
    { result with term := .field (source.field (some n)) }
  return { number := state.branches, results, sources := [source], isPart := true }

/-- Brings everything inside of a branch into shape. -/
def finish : (rounds : Nat) → Branch → List TermOrder → Reshaping Branch
  | 0, _, _ => throw (.senseless "parser stack overflow")
  | rounds + 1, branch, order => do
    let branch ← countApart (branch.settled (← get).book) order
    for (source, n) in branch.sources.zipIdx do
      if let some number := source.query? then
        lower branch order n source number
        query rounds number .rows
    checkAggregates branch order
    let terms := branch.terms ++ order.map TermOrder.term
    for (number, usage) in terms.flatMap Term.usages do query rounds number usage
    return branch

end

/-- The greatest depth of queries in each other. -/
def maxDepth : Nat := 2000

/-- The queries of a statement in shape, of some of which something is wanted, and how many sources
there are then. -/
def ofUses (book : Book) (cursors branches : Nat) (uses : List (Nat × Usage)) :
    Except SqlError Workshop := do
  let act : Reshaping Unit := do
    for (number, usage) in uses do query maxDepth number usage
  let (_, state) ← (act.run (.ofBook book cursors branches) : Except SqlError _)
  return state

end Reshaping
end AppCatalog
