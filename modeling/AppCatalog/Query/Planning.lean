import AppCatalog.Query.Execution
import AppCatalog.Query.Implied
import AppCatalog.Query.Preparation
import AppCatalog.Query.Simplification
import AppCatalog.Query.Staging

/-!
# Planning

In which order the sources of a branch are gone through, how their rows are found, and where each
condition is tested: as soon as all rows are at hand of which it speaks.
-/

namespace AppCatalog

/-- A condition that is to be tested, and the sources of which it speaks. -/
structure Clause where
  term : Term
  join? : Option (Nat × Bool) := none
  cursors : List Nat := []

namespace Clause

/-- Whether the condition says which rows of a source that may lack go with those before. -/
def isOuter (clause : Clause) : Bool := clause.join?.any (·.2)

/-- The conditions of a branch, one by one. -/
def ofBranch (book : Book) (branch : Branch) : List Clause :=
  let own := branch.sources.map (·.cursor)
  branch.conditions.flatMap fun condition =>
    condition.term.conjuncts.map fun term =>
      let found := (book.outerCursors (book.size + 1) [term]).filter own.contains
      let joined := match condition.join? with
        | some (cursor, true) => [cursor]
        | _ => []
      { term, join? := condition.join?, cursors := (joined ++ found).eraseDups }

/-- Whether all rows are at hand of which the condition speaks. -/
def isRipe (clause : Clause) (ready : List Nat) : Bool := clause.cursors.all ready.contains

end Clause

/-- A source that is about to be gone through, and conditions that are still to be tested. -/
structure Placing where
  levels : List Level := []
  clauses : List Clause
  ready : List Nat := []

namespace Placing

/-- Puts a source behind those that are placed, with the conditions that can be tested there. -/
def add (placing : Placing) (level : Level) : Placing :=
  let source := level.source
  let joining := source.joining
  let ready := source.cursor :: placing.ready
  let (ripe, rest) := placing.clauses.partition (·.isRipe ready)
  let isOuter := joining.keepsLeft || joining.keepsRight || joining.isBeforeRight
  if !isOuter then
    { levels := placing.levels ++ [{ level with tests := ripe.map (·.term) }], clauses := rest
      ready }
  else
    let isJoined (clause : Clause) : Bool :=
      match clause.join? with
      | none => false
      | some (cursor, isOuter) => ready.contains cursor && (isOuter || !joining.keepsLeft)
    let (joined, others) := ripe.partition isJoined
    let (tests, late) := if joining.isBeforeRight then ([], others) else (others, [])
    let level :=
      { level with joined := joined.map (·.term), tests := tests.map (·.term) }
    { levels := placing.levels ++ [level], clauses := late ++ rest, ready }

end Placing

namespace Machine

/-- The levels of a branch, in the order of its sources. -/
def levelsOf (book : Book) (branch : Branch) : List Term × List Level :=
  let clauses := Clause.ofBranch book branch
  let (early, clauses) := clauses.partition fun clause => clause.cursors.isEmpty
  let levels := branch.sources.map fun source => ({ source } : Level)
  let placing := levels.foldl Placing.add { clauses }
  (early.map (·.term), placing.levels)

/-- The plan of a branch. -/
def branchPlan (staging : Staging) (query : Query) (branch : Branch) : BranchPlan :=
  let stages := staging.stagesOf branch
  let (early, levels) := levelsOf staging.book branch
  let levels := levels.zipIdx.map fun (level, n) =>
    let approach := match level.source.origin with
      | .supplier supplier =>
        let hidden := (supplier.heads.zipIdx.filter (·.1.isHidden)).map (·.2)
        Approach.supplied (hidden.zip level.source.arguments)
      | _ => level.approach
    { level with isStreamed := n = 0 && !level.source.joining.isBeforeRight, approach }
  let grouping? := stages.groups?.map fun (cursor, functions) =>
    ({ cursor, functions, keys := branch.groups, having? := branch.having? } : Grouping)
  let isSelf (source : QuerySource) : Bool := match source.origin with
    | .found => true
    | _ => false
  { results := branch.results.map (·.term), early, levels, grouping?
    surroundings := stages.surroundings
    order := if query.branches.length = 1 then query.order else []
    isDistinct := branch.isDistinct, isRecursive := branch.isRecursive
    self? := (branch.sources.find? isSelf).map (·.cursor) }

/-- The plan of a query. -/
def queryPlan (staging : Staging) (query : Query) : QueryPlan :=
  let columns := query.first.results.length
  let collation (n : Nat) : Collation :=
    ((query.branches.findSome? fun (_, branch) =>
      ((branch.results[n]?).bind (·.term.collation?))).getD .binary)
  { branches := query.branches.map fun (op, branch) => (op, branchPlan staging query branch)
    order := query.order, limit? := query.limit?, offset? := query.offset?
    collations := (List.range columns).map collation
    isCorrelated := query.isCorrelated }

/-- A machine for the queries of a statement that is prepared. -/
def ofPreparation (schema : Schema) (parameter : Value) (preparation : Preparation) :
    Except SqlError Machine := do
  let drawing := preparation.drawing
  let shaped ← Reshaping.ofUses preparation.book drawing.cursors drawing.branches preparation.uses
  let staging := Staging.ofBook shaped.book shaped.cursors
  let correlated := staging.book.toList.flatMap fun query =>
    query.branches.flatMap fun (_, branch) =>
      (branch.sources.filter (·.isCorrelated)).filterMap (·.query?)
  let plans := staging.book.zipIdx.map fun (query, number) =>
    let plan := queryPlan staging query
    { plan with isCorrelated := plan.isCorrelated || correlated.contains number }
  return { schema, parameter, book := staging.book, plans }

end Machine
end AppCatalog
