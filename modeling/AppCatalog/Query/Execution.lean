import AppCatalog.Query.Supply
import AppCatalog.Query.Surrounding

/-!
# Running queries

The rows of a query by its plan. They are handed on one by one, and whoever takes them may ask for
no more; where they have to be put in order first, or where it must be told whether a row was there
before, they are kept until then.
-/

namespace AppCatalog

/-- What is known while queries run. -/
structure Machine where
  schema : Schema
  /-- The value that the statement was given. -/
  parameter : Value := .null
  book : Book := #[]
  /-- The plans of the queries, by their numbers. -/
  plans : Array QueryPlan := #[]

/-! ## A part of the rows -/

/-- Rows of which some are passed over and only so many are taken. -/
structure Portion (α : Type) where
  state : α
  skipped : Nat
  left? : Option Nat
  /-- Whether whoever takes the rows wants more of them. -/
  goesOn : Bool := true

namespace Portion

/-- Hands on a row. -/
def take {α : Type} (f : α → List Marked → Run (Taken α)) (portion : Portion α)
    (row : List Marked) : Run (Taken (Portion α)) := do
  if 0 < portion.skipped then return ({ portion with skipped := portion.skipped - 1 }, true)
  else
    let (state, goesOn) ← f portion.state row
    let left? := portion.left?.map (· - 1)
    return ({ portion with state, left?, goesOn }, goesOn && left? ≠ some 0)

/-- What became of the rows that were taken. -/
def result {α : Type} (portion : Portion α) : Taken α := (portion.state, portion.goesOn)

end Portion

namespace Setting

/-- A number of rows. -/
def count (setting : Setting) (term : Term) : Run Int := do
  match Affinity.numeric.apply setting.encoding (← setting.evaluate term).value with
  | .integer n => return n
  | _ => Run.fail .mismatch

end Setting

/-! ## Rows of one branch -/

namespace BranchPlan

/-- What is at hand where there are no rows. -/
def vacant (plan : BranchPlan) (outlook : Outlook) : Outlook :=
  (plan.levels.map fun level => (level.source.cursor, .vacant)) ++ outlook

/-- Goes through the rows that go with each other. -/
def eachJoined {α : Type} (plan : BranchPlan) (feed : Feed) (take : α → Outlook → Run (Taken α))
    (outlook : Outlook) (state : α) : Run (Taken α) := do
  if ← (feed.setting outlook).meetsAll plan.early then
    Level.join plan.levels feed take outlook state
  else return (state, true)

/-- The number of all rows, if no more is asked for. -/
def countOf (counted : Table × Option Index) : Run Marked := do
  let (table, index?) := counted
  let cursor ← match index? with
    | some index => (Volume.openIndex index : Volume.Act Cursor)
    | none => (Volume.openTree table.root table.hasRowid : Volume.Act Cursor)
  return { value := .integer (← (cursor.count : Volume.Act Nat)) }

/-- Goes through groups of rows, or through rows if they are not grouped. -/
def eachGroup {α : Type} (plan : BranchPlan) (feed : Feed) (take : α → Outlook → Run (Taken α))
    (outlook : Outlook) (state : α) : Run (Taken α) :=
  match plan.grouping?, plan.counted? with
  | none, _ => plan.eachJoined feed take outlook state
  | some grouping, some counted => do
    let count ← countOf counted
    take state ((grouping.cursor, .row [count] .null) :: plan.vacant outlook)
  | some grouping, none => do
    let (members, _) ← plan.eachJoined feed
      (fun (found : List Member) outlook => do
        return ((← grouping.member feed outlook) :: found, !grouping.isFirst)) outlook []
    let encoding := (feed.setting outlook).encoding
    grouping.each feed encoding (plan.vacant outlook) members.reverse take state

/-- Goes through rows with what functions make of the rows around them. -/
def eachOutlook {α : Type} (plan : BranchPlan) (feed : Feed) (take : α → Outlook → Run (Taken α))
    (outlook : Outlook) (state : α) : Run (Taken α) := do
  if plan.surroundings.isEmpty then plan.eachGroup feed take outlook state
  else
    let (found, _) ← plan.eachGroup feed
      (fun (found : List Outlook) outlook => return (outlook :: found, true)) outlook []
    let encoding := (feed.setting outlook).encoding
    let outlooks ← plan.surroundings.foldlM (fun outlooks surrounding =>
      surrounding.outlooks feed encoding outlooks) found.reverse
    outlooks.foldlM (fun (state, goesOn) outlook => do
      if goesOn then take state outlook else return (state, false)) (state, true)

/-- What a row is ordered by. -/
def keysOf (plan : BranchPlan) (setting : Setting) (row : List Marked) : Run (List SortKey) :=
  plan.order.mapM fun order => do
    match order.place?.bind (row[·]?) with
    | some value => return order.key value.value
    | none => return order.key (← setting.evaluate order.term).value

/-- Goes through the rows of the result, with what they are ordered by. -/
def eachResult {α : Type} (plan : BranchPlan) (feed : Feed)
    (take : α → List SortKey → List Marked → Run (Taken α)) (outlook : Outlook) (state : α) :
    Run (Taken α) := do
  let collations := plan.results.map fun term => term.collation?.getD .binary
  let needsKeys := !plan.isOrdered
  let takeRow (found : α × Seen) (outlook : Outlook) : Run (Taken (α × Seen)) := do
    let setting := feed.setting outlook
    let row ← plan.results.mapM setting.evaluate
    let key := if plan.isDistinct then
        Seen.row setting.encoding collations (row.map (·.value))
      else []
    if plan.isDistinct && found.2.contains key then return (found, true)
    else
      let keys ← if needsKeys then plan.keysOf setting row else pure []
      let (state, goesOn) ← take found.1 keys row
      return ((state, if plan.isDistinct then found.2.insert key else found.2), goesOn)
  let ((state, _), goesOn) ← plan.eachOutlook feed takeRow outlook (state, {})
  return (state, goesOn)

/-- All rows of the result, in order. -/
def sortedRows (plan : BranchPlan) (feed : Feed) (outlook : Outlook) :
    Run (List (List Marked)) := do
  let (found, _) ← plan.eachResult feed
    (fun (found : List (List SortKey × List Marked)) keys row =>
      return ((keys, row) :: found, true)) outlook []
  let encoding := (feed.setting outlook).encoding
  let sorted := found.reverse.mergeSort fun a b => SortKey.isBefore encoding a.1 b.1
  return sorted.map fun (_, row) => row.map fun value => { value with isJson := false }

/-- Goes through the rows of the result in order. -/
def each {α : Type} (plan : BranchPlan) (feed : Feed) (take : α → List Marked → Run (Taken α))
    (outlook : Outlook) (state : α) : Run (Taken α) := do
  if plan.order.isEmpty || plan.isOrdered then
    plan.eachResult feed (fun state _ row => take state row) outlook state
  else
    (← plan.sortedRows feed outlook).foldlM (fun (state, goesOn) row => do
      if goesOn then take state row else return (state, false)) (state, true)

/-- All rows of the result. -/
def rows (plan : BranchPlan) (feed : Feed) (outlook : Outlook) : Run (List (List Marked)) := do
  let (found, _) ← plan.each feed
    (fun (found : List (List Marked)) row => return (row :: found, true)) outlook []
  return found.reverse

end BranchPlan

/-! ## Rows of several branches -/

namespace QueryPlan

/-- What tells rows apart. -/
def rowKey (plan : QueryPlan) (encoding : Encoding) (row : List Marked) : List Value :=
  Seen.row encoding plan.collations (row.map (·.value))

/-- What a row is ordered by in the end; behind that, where rows are told apart, by all of its
columns. -/
def keysOf (plan : QueryPlan) (encoding : Encoding) (op : Compound) (row : List Marked) :
    List SortKey :=
  let _ := encoding
  let value (n : Nat) : Value := (row.getD n Marked.none).value
  let collation (n : Nat) : Collation := plan.collations.getD n .binary
  let given := plan.order.map fun order =>
    let n := order.place?.getD 0
    let key := order.key (value n)
    if order.term.isCollated then key else { key with collation := collation n }
  let isUsed (n : Nat) : Bool := plan.order.any (·.place? = some n)
  let others := ((List.range row.length).filter (!isUsed ·)).map fun n =>
    SortKey.plain (value n) (collation n)
  if op = .unionAll then given else given ++ others

/-- Rows with those kept that are the first of their likes. -/
def firsts (plan : QueryPlan) (encoding : Encoding) (rows : List (List Marked)) :
    List (List Marked) :=
  ((rows.foldl (fun (found : List (List Marked) × Seen) row =>
    let key := plan.rowKey encoding row
    if found.2.contains key then found else (row :: found.1, found.2.insert key))
    ([], {})).1).reverse

/-- The keys of rows. -/
def seen (plan : QueryPlan) (encoding : Encoding) (rows : List (List Marked)) : Seen :=
  rows.foldl (fun found row => found.insert (plan.rowKey encoding row)) {}

/-- The rows of two selections put together. Of rows that are the same one is kept: without an order
the last one, else the first one of the second selection, if there is one. -/
def combined (plan : QueryPlan) (encoding : Encoding) (op : Compound)
    (left right : List (List Marked)) : List (List Marked) :=
  let isOrdered := !plan.order.isEmpty
  let has (found : Seen) (row : List Marked) : Bool := found.contains (plan.rowKey encoding row)
  let single (rows : List (List Marked)) : List (List Marked) :=
    if isOrdered then plan.firsts encoding rows else plan.firsts encoding rows.reverse
  let found := match op with
    | .unionAll => left ++ right
    | .union => if isOrdered then single (right ++ left) else single (left ++ right)
    | .except => single (left.filter (!has (plan.seen encoding right) ·))
    | .intersect => single (left.filter (has (plan.seen encoding right)))
  let keys := plan.keysOf encoding op
  if op = .unionAll && !isOrdered then found
  else found.mergeSort fun a b => SortKey.isBefore encoding (keys a) (keys b)

/-- The rows of branches put together, first to last. -/
def combinedRows (plan : QueryPlan) (feed : Feed) (outlook : Outlook)
    (branches : List (Compound × BranchPlan)) : Run (List (List Marked)) := do
  let encoding := (feed.setting outlook).encoding
  match branches with
  | [] => return []
  | (_, first) :: rest =>
    let start ← first.rows feed outlook
    rest.foldlM (fun rows (op, branch) => do
      let rows' ← branch.rows feed outlook
      return plan.combined encoding op rows rows') start

/-- Goes through the rows of branches, which all are wanted. -/
def eachInTurn {α : Type} (feed : Feed) (take : α → List Marked → Run (Taken α))
    (outlook : Outlook) (branches : List (Compound × BranchPlan)) (state : α) : Run (Taken α) :=
  branches.foldlM (fun (state, goesOn) (_, branch) => do
    if goesOn then branch.each feed take outlook state else return (state, false)) (state, true)

/-! ## More rows from rows -/

/-- Rows that are still to be looked at, with what they are ordered by, and those that were
found. -/
structure Queue where
  waiting : List (List SortKey × List Marked) := []
  /-- Rows that came last, backwards. -/
  fresh : List (List SortKey × List Marked) := []
  seen : Seen := {}

namespace Queue

/-- One more row, unless it is one that was found before. -/
def add (queue : Queue) (plan : QueryPlan) (encoding : Encoding) (isSingle : Bool)
    (row : List Marked) : Queue :=
  let key := if isSingle then plan.rowKey encoding row else []
  if isSingle && queue.seen.contains key then queue
  else
    let seen := if isSingle then queue.seen.insert key else queue.seen
    let keys := plan.keysOf encoding .unionAll row
    { queue with fresh := (keys, row) :: queue.fresh, seen }

/-- The next row, and what is left. -/
def next? (queue : Queue) (plan : QueryPlan) (encoding : Encoding) :
    Option (List Marked × Queue) :=
  if plan.order.isEmpty then
    match queue.waiting with
    | (_, row) :: waiting => some (row, { queue with waiting })
    | [] =>
      match queue.fresh.reverse with
      | (_, row) :: waiting => some (row, { queue with waiting, fresh := [] })
      | [] => none
  else
    let all := queue.waiting.merge
      (queue.fresh.reverse.mergeSort fun a b => SortKey.isBefore encoding a.1 b.1)
      fun a b => SortKey.isBefore encoding a.1 b.1
    match all with
    | (_, row) :: waiting => some (row, { queue with waiting, fresh := [] })
    | [] => none

end Queue

/-- Goes on from the rows that are still to be looked at, as long as there are some. -/
def eachFound {α : Type} (plan : QueryPlan) (feed : Feed) (isSingle : Bool)
    (more : List (Compound × BranchPlan)) (take : α → List Marked → Run (Taken α))
    (outlook : Outlook) : (rounds : Nat) → Queue → α → Run (Taken α)
  | 0, _, state => return (state, true)
  | rounds + 1, queue, state => do
    let encoding := (feed.setting outlook).encoding
    match queue.next? plan encoding with
    | none => return (state, true)
    | some (row, queue) => do
      let (state, goesOn) ← take state row
      if !goesOn then return (state, false)
      else
        let queue ← more.foldlM (fun queue (_, branch) => do
          let here : Outlook := match branch.self? with
            | some cursor => (cursor, .row row .null) :: outlook
            | none => outlook
          let (queue, _) ← branch.each feed (fun (queue : Queue) row =>
            return (queue.add plan encoding isSingle row, true)) here queue
          return queue) queue
        eachFound plan feed isSingle more take outlook rounds queue state

/-- The greatest number of rows that are found from others. -/
def maxFound : Nat := 1 <<< 40

/-- Goes through rows and those that are found from them. -/
def eachRecursive {α : Type} (plan : QueryPlan) (feed : Feed)
    (take : α → List Marked → Run (Taken α)) (outlook : Outlook) (state : α) : Run (Taken α) := do
  let encoding := (feed.setting outlook).encoding
  let start := plan.branches.filter fun (_, branch) => !branch.isRecursive
  let more := plan.branches.filter fun (_, branch) => branch.isRecursive
  let isSingle := more.any fun (op, _) => op = .union
  let plain := { plan with order := [] }
  let rows ← plain.combinedRows feed outlook start
  let queue := rows.foldl (fun (queue : Queue) row => queue.add plan encoding isSingle row) {}
  plan.eachFound feed isSingle more take outlook maxFound queue state

/-- Goes through all rows of a query. -/
def eachAll {α : Type} (plan : QueryPlan) (feed : Feed) (take : α → List Marked → Run (Taken α))
    (outlook : Outlook) (state : α) : Run (Taken α) := do
  match plan.branches with
  | [(_, branch)] => branch.each feed take outlook state
  | branches =>
    if branches.any (·.2.isRecursive) then plan.eachRecursive feed take outlook state
    else if plan.order.isEmpty && (branches.drop 1).all (·.1 = .unionAll) then
      eachInTurn feed take outlook branches state
    else
      (← plan.combinedRows feed outlook branches).foldlM (fun (state, goesOn) row => do
        if goesOn then take state row else return (state, false)) (state, true)

/-- Goes through the rows of a query that are wanted. -/
def each {α : Type} (plan : QueryPlan) (feed : Feed) (take : α → List Marked → Run (Taken α))
    (outlook : Outlook) (state : α) : Run (Taken α) := do
  let setting := feed.setting outlook
  let limit? ← plan.limit?.mapM setting.count
  if limit? = some 0 then return (state, true)
  else
    let offset? ← plan.offset?.mapM setting.count
    let portion : Portion α :=
      { state, skipped := (offset?.getD 0).toNat
        left? := limit?.bind fun n => if n < 0 then none else some n.toNat }
    let (portion, _) ← plan.eachAll feed (Portion.take take) outlook portion
    return portion.result

end QueryPlan

/-! ## Queries in each other -/

namespace Machine

/-- What terms are evaluated with where some rows are at hand. -/
def settingWith (machine : Machine)
    (answer : Outlook → Nat → Option Nat → Run (List (List Marked))) (outlook : Outlook) :
    Setting where
  encoding := machine.schema.encoding
  parameter := machine.parameter
  book := machine.book
  field := outlook.value machine.schema.encoding
  isVacant := outlook.isVacant
  answer := answer outlook

/-- Rows as they are at hand. -/
def stations (rows : List (List Marked)) : List Station :=
  rows.zipIdx.map fun (row, n) =>
    .row (row.map fun value => { value with isJson := false }) (.integer (n + 1))

mutual

/-- The rows of a query, or the first of them. Those of a query that depends on nothing around it
are found only once. -/
def answer (machine : Machine) :
    (rounds : Nat) → Outlook → (query : Nat) → (most? : Option Nat) → Run (List (List Marked))
  | 0, _, _, _ => Run.fail (.senseless "parser stack overflow")
  | rounds + 1, outlook, query, most? => do
    let isOwn := (machine.plans.getD query default).isCorrelated
    let known := (← getThe Progress).answers
    match if isOwn then none else known.lookup query with
    | some rows => return rows
    | none =>
      let take (found : List (List Marked) × Nat) (row : List Marked) :
          Run (Taken (List (List Marked) × Nat)) :=
        return ((row :: found.1, found.2 + 1), most?.all (found.2 + 1 < ·))
      let ((found, _), _) ← eachRow machine rounds outlook query take ([], 0)
      let rows := found.reverse
      unless isOwn do
        modifyThe Progress fun progress =>
          { progress with answers := (query, rows) :: progress.answers }
      return rows

/-- Goes through the rows of a query. -/
def eachRow {α : Type} (machine : Machine) :
    (rounds : Nat) → Outlook → (query : Nat) → (α → List Marked → Run (Taken α)) → α →
    Run (Taken α)
  | 0, _, _, _, _ => Run.fail (.senseless "parser stack overflow")
  | rounds + 1, outlook, query, take, state =>
    let feed : Feed :=
      { setting := machine.settingWith (answer machine rounds)
        each := fun outlook level take state => eachOf machine rounds outlook level take state }
    (machine.plans.getD query default).each feed take outlook state

/-- Goes through the rows of a source that is no table. -/
def eachOf {α : Type} (machine : Machine) :
    (rounds : Nat) → Outlook → Level → (α → Station → Run (Taken α)) → α → Run (Taken α)
  | 0, _, _, _, _ => Run.fail (.senseless "parser stack overflow")
  | rounds + 1, outlook, level, take, state => do
    let all (stations : List Station) : Run (Taken α) :=
      stations.foldlM (fun (state, goesOn) station => do
        if goesOn then take state station else return (state, false)) (state, true)
    match level.source.origin with
    | .table _ => return (state, true)
    | .found => all ((outlook.lookup level.source.cursor).toList)
    | .supplier supplier =>
      let setting := machine.settingWith (answer machine rounds) outlook
      let columns := match level.approach with
        | .supplied columns => columns
        | _ => []
      let arguments ← columns.mapM fun (column, term) => do
        return (column, (← setting.evaluate term).value)
      all (stations (← supplier.rows machine.schema arguments))
    | .query query =>
      if level.isStreamed then
        let takeRow (found : α × Nat) (row : List Marked) : Run (Taken (α × Nat)) := do
          let (state, goesOn) ← take found.1 (.row row (.integer (found.2 + 1)))
          return ((state, found.2 + 1), goesOn)
        let ((state, _), goesOn) ← eachRow machine rounds outlook query takeRow (state, 0)
        return (state, goesOn)
      else all (stations (← answer machine rounds outlook query none))

end

/-- The greatest depth of queries in each other that run. -/
def maxDepth : Nat := 4000

/-- What terms are evaluated with where some rows are at hand. -/
def setting (machine : Machine) (outlook : Outlook) : Setting :=
  machine.settingWith (machine.answer maxDepth) outlook

/-- Goes through the rows of a query. -/
def each {α : Type} (machine : Machine) (outlook : Outlook) (query : Nat)
    (take : α → List Marked → Run (Taken α)) (state : α) : Run (Taken α) :=
  machine.eachRow maxDepth outlook query take state

/-- The rows of a query. -/
def rows (machine : Machine) (outlook : Outlook) (query : Nat) : Run (List (List Value)) := do
  let (found, _) ← machine.each outlook query
    (fun (found : List (List Value)) row => return (row.map (·.value) :: found, true)) []
  return found.reverse

end Machine
end AppCatalog
