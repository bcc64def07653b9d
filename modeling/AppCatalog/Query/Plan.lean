import AppCatalog.Query.Approach

/-!
# Plans

How the rows of a query are found: the sources in the order in which they are gone through, how the
rows of each are found, and which conditions are tested where. What is computed from several rows
stands in a source of its own, from which the rest takes it.
-/

namespace AppCatalog

/-- A source in its turn. -/
structure Level where
  source : QuerySource
  approach : Approach := .all none false
  /-- Whether the rows of its query are found one by one as they are taken. -/
  isStreamed : Bool := false
  /-- Conditions that say which of its rows go with those before. -/
  joined : List Term := []
  /-- Further conditions. -/
  tests : List Term := []

instance : Inhabited Level := ⟨{ source := default }⟩

/-- How rows are put together in groups. -/
structure Grouping where
  /-- The source that holds what functions make of a group. -/
  cursor : Nat
  functions : List Term
  keys : List TermOrder
  /-- Whether the rows of a group come one after another already. -/
  isOrdered : Bool := false
  /-- Whether only the first row matters. -/
  isFirst : Bool := false
  having? : Option Term := none

/-- Functions of the rows around a row, all of them with the same rows. -/
structure Surrounding where
  /-- The source that holds what the functions make of the rows. -/
  cursor : Nat
  functions : List Term
  pane : Pane

/-- How the rows of a branch are found. -/
structure BranchPlan where
  results : List Term
  /-- Conditions that do not depend on any source. -/
  early : List Term := []
  levels : List Level := []
  grouping? : Option Grouping := none
  /-- Functions of the rows around a row, the innermost first. -/
  surroundings : List Surrounding := []
  order : List TermOrder := []
  /-- Whether rows come in the order that is asked for. -/
  isOrdered : Bool := false
  isDistinct : Bool := false
  isRecursive : Bool := false
  /-- The cursor for the rows that were found before, if it finds more from them. -/
  self? : Option Nat := none
  /-- The number of rows of a table, asked of an index or of the table itself. -/
  counted? : Option (Table × Option Index) := none

instance : Inhabited BranchPlan := ⟨{ results := [] }⟩

/-- How the rows of a query are found. -/
structure QueryPlan where
  branches : List (Compound × BranchPlan)
  order : List TermOrder := []
  limit? : Option Term := none
  offset? : Option Term := none
  /-- The order of the texts of its columns. -/
  collations : List Collation := []
  isCorrelated : Bool := false

instance : Inhabited QueryPlan := ⟨{ branches := [] }⟩

end AppCatalog
