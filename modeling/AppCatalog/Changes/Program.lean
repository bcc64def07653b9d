import AppCatalog.Changes.Deed
import AppCatalog.Query.Planning

/-!
# Programs

What is run because of changes of rows: triggers, and what follows from references. All that a
statement can set off is prepared before it does anything, each program but once, so that the first
part that makes no sense is told; a program is prepared as soon as something is found that sets it
off.
-/

namespace AppCatalog

/-- What is run because of a change of a row. -/
structure Program where
  machine : Machine
  condition? : Option Term
  deeds : List Deed

/-- The programs of a statement. -/
abbrev Programs : Type := List (ProgramKey × Program)

/-- How far the programs of a statement are prepared. Of those that are not done only the key is
known. -/
structure Rehearsal where
  started : List ProgramKey := []
  programs : Programs := []
  /-- How far the program is that is prepared now. -/
  preparation : Preparation := {}

/-- What is done to prepare the programs of a statement. -/
abbrev Rehearsing : Type → Type := StateT Rehearsal (Except SqlError)

namespace Table

/-- What changes where some columns get other values. -/
def alterationOf (table : Table) (columns : List (Option Nat)) : Alteration :=
  let rowid := columns.any fun n? => n?.isNone || n? = table.rowidColumn?
  table.spread table.columns.length { columns := columns.filterMap id, rowid }

/-- The indexes that a change concerns. -/
def indexesFor (table : Table) (change : Alteration) : List Index :=
  table.indexes.filter fun index =>
    let concerns (column : IndexColumn) : Bool :=
      match column.item with
      | .column n => table.isAltered change n
      | .rowid => change.rowid
      | .expression expression => table.speaksOf change expression
    change.rowid || index.columns.any concerns || index.condition?.any (table.speaksOf change)

end Table

namespace Revision

/-- What changes. -/
def alteration (revision : Revision) : Alteration :=
  revision.table.alterationOf (revision.changes.map (·.1))

end Revision

namespace Inlet

/-- Whether the number of a row is given. -/
def isNumbered (inlet : Inlet) : Bool :=
  inlet.columns.any fun n? => n?.isNone || n? = inlet.table.rowidColumn?

/-- Whether a clause may ever apply. -/
def isUsed (inlet : Inlet) (place : Nat) : Bool :=
  let table := inlet.table
  let number := if table.hasRowid && inlet.isNumbered then [ClashTarget.number] else []
  let keys := (table.indexes.filter (·.isUnique)).map fun index => ClashTarget.key index.name
  (number ++ keys).any fun target =>
    (ClashClause.find? inlet.clauses target).any (·.2 = place)

end Inlet

namespace Rehearsal

/-- Goes on with what is prepared now. -/
def prepare {α : Type} (act : Preparing α) : Rehearsing α := do
  let state ← get
  let (result, preparation) ← (act.run state.preparation : Except SqlError _)
  set { state with preparation }
  return result

/-- A machine for what is prepared so far. -/
def machine (schema : Schema) : Rehearsing Machine := do
  let state ← get
  Machine.ofPreparation schema .null state.preparation

mutual

/-- Prepares what a trigger does, unless that is done already. -/
def program (schema : Schema) :
    (rounds : Nat) → Table → List Head → TriggerEvent → ProgramKey → Trigger → Rehearsing Unit
  | 0, _, _, _, _, _ => throw (.senseless "too many levels of trigger recursion")
  | rounds + 1, table, heads, event, key, trigger => do
    if (← get).started.contains key then return
    let before := (← get).preparation
    let site := RowEvent.site schema table heads event
    modify fun state =>
      { state with started := key :: state.started, preparation := { drawing := { cursors := 2 } } }
    let condition? ← trigger.condition?.mapM fun condition =>
      prepare (site.expression {} condition)
    discard (machine schema)
    let deeds ← trigger.steps.mapM fun step => do
      let deed ← deed schema rounds site step
      discard (machine schema)
      return deed
    let machine ← machine schema
    modify fun state =>
      { state with
        programs := (key, { machine, condition?, deeds }) :: state.programs, preparation := before }

/-- Prepares what is fired for an event at some time. -/
def fire (schema : Schema) :
    (rounds : Nat) → Table → List Head → TriggerEvent → TriggerTime → Rehearsing Unit
  | 0, _, _, _, _ => throw (.senseless "too many levels of trigger recursion")
  | rounds + 1, table, heads, event, time => do
    for trigger in table.triggers do
      if trigger.awaits time event then
        program schema rounds table heads event (.trigger trigger.name) trigger

/-- Prepares what is set off where rows are changed or deleted: before it happens, by references, and
behind it. -/
def change (schema : Schema) :
    (rounds : Nat) → Table → List Head → TriggerEvent → Option Alteration → Rehearsing Unit
  | 0, _, _, _, _ => throw (.senseless "too many levels of trigger recursion")
  | rounds + 1, table, heads, event, change? => do
    fire schema rounds table heads event .before
    fire schema rounds table heads event .instead
    if table.view?.isNone then
      let account : Account := { schema }
      account.check table change?
      for (key, trigger) in account.followUps table change? event do
        program schema rounds table heads event key trigger
    fire schema rounds table heads event .after

/-- Prepares what an insertion sets off, and what is done about rows that are in the way. -/
def insertion (schema : Schema) (isSingle : Bool) :
    (rounds : Nat) → Site → Inlet → List Head → List Upsert → Rehearsing Inlet
  | 0, _, _, _, _ => throw (.senseless "too many levels of trigger recursion")
  | rounds + 1, site, inlet, heads, clauses => do
    let table := inlet.table
    if table.view?.isNone then Table.checkIndexes table.indexes
    let source ← prepare (Site.target table.name table heads)
    let inlet := { inlet with clauses := ← prepare (site.clashTargets source table clauses) }
    let settle (clause : Upsert) : Rehearsing Settlement := do
      let settlement ← prepare (site.settlement source table clause)
      let event := TriggerEvent.update settlement.revision.names
      change schema rounds table heads event (some settlement.revision.alteration)
      return settlement
    let used := clauses.zipIdx.filter fun (clause, place) =>
      clause.assignments?.isSome && inlet.isUsed place
    fire schema rounds table heads .insert .before
    fire schema rounds table heads .insert .instead
    let settlements ← used.mapM fun (clause, place) => do return (place, ← settle clause)
    if table.view?.isNone then ({ schema, isSingle : Account }).check table none
    fire schema rounds table heads .insert .after
    return { inlet with settlements }

/-- Prepares a step of a trigger. -/
def deed (schema : Schema) : (rounds : Nat) → Site → TriggerStep → Rehearsing Deed
  | 0, _, _ => throw (.senseless "too many levels of trigger recursion")
  | rounds + 1, site, step => do
    match step with
    | .select selection => return .select (← prepare (site.selection selection .nothing))
    | .insert onConflict? name columns selection clauses =>
      let (inlet, heads) ← site.inlet name columns
      let query ← prepare (site.insertedRows inlet name (!columns.isEmpty) selection)
      let inlet ← insertion schema false rounds site inlet heads clauses
      return .insert onConflict? inlet query
    | .delete name condition? =>
      let table ← site.existing name
      let heads ← Site.headsOf schema table
      table.checkWritable .delete
      let source ← prepare (Site.target name table heads)
      let query ← prepare (site.chosen source table condition?)
      if table.view?.isNone then Table.checkIndexes table.indexes
      change schema rounds table heads .delete none
      return .delete table query
    | .update onConflict? name assignments sources condition? =>
      let table ← site.existing name
      let heads ← Site.headsOf schema table
      let event := TriggerEvent.update (assignments.flatMap (·.columns))
      table.checkWritable event
      let (revision, query) ←
        if sources.isEmpty then do
          let source ← prepare (Site.target name table heads)
          let revision ← prepare (site.revision source table assignments)
          pure (revision, ← prepare (site.chosen source table condition?))
        else prepare (site.revisionFrom table heads assignments sources condition?)
      let alteration := revision.alteration
      if table.view?.isNone then Table.checkIndexes (table.indexesFor alteration)
      change schema rounds table heads event (some alteration)
      return .update onConflict? revision query

end

/-- Bounds how deep programs set off each other: each is prepared once. -/
def depth (schema : Schema) : Nat :=
  4 * (schema.tables.foldl (fun count table =>
    count + table.triggers.length + table.foreignKeys.length * 2) 4)

/-- Prepares what an insertion sets off that is no part of a program. -/
def ofInsertion (site : Site) (isSingle : Bool) (inlet : Inlet) (heads : List Head) :
    Except SqlError Programs := do
  let schema := site.schema
  let (_, state) ← (insertion schema isSingle (depth schema) site inlet heads []).run {}
  return state.programs

/-- Prepares what a deletion sets off that is no part of a program. -/
def ofDeletion (schema : Schema) (table : Table) (heads : List Head) :
    Except SqlError Programs := do
  let (_, state) ← (change schema (depth schema) table heads .delete none).run {}
  return state.programs

/-- Prepares what follows from references when rows of a table are deleted, and what that sets
off. -/
def ofFollowUps (schema : Schema) (table : Table) : Except SqlError Programs := do
  let account : Account := { schema }
  let act : Rehearsing Unit := do
    for (key, trigger) in account.followUps table none .delete do
      program schema (depth schema) table table.heads .delete key trigger
  let (_, state) ← act.run {}
  return state.programs

end Rehearsal
end AppCatalog
