import Mathlib.Data.List.Forall2
import AppCatalog.Proofs.Database.Migration
import AppCatalog.Proofs.Store.Ledger

/-!
# Databases that differ in stamps only

Two databases in which the same was done may have given other stamps to it, when one of them gave
out more of them. Nobody can tell them apart who does not look at ids and times.

* **Ids are alike** (`Supply.Alike`) if they are one that came from elsewhere, or two that were
  given out.
* **Tables are alike** (`AppTable.Alike`) if their rows have the same numbers and texts and ids that
  are alike, and databases are (`Database.Alike`) if their tables of apps are and their migrations
  are the same.
* **Commands keep databases alike** and are answered alike: questions (`Alike.listing`,
  `Alike.find`, `Alike.count`), insertions under the next stamp of each (`Alike.insert`), edits
  (`Alike.edit`) and migrations (`Alike.migrated`, `Alike.migratedFor`).
-/

namespace AppCatalog

open List (Forall₂)

/-! ## Rows and tables -/

/-- Whether ids in two databases, where so many stamps were given out, are alike: they are the same
and never given out, or both were given out. -/
inductive Supply.Alike (supply : Supply) (issued issued' : Nat) : String → String → Prop
  | elsewhere {id : String} (never : ∀ n, (supply n).id ≠ id) : Alike supply issued issued' id id
  | given {n n' : Nat} (before : n < issued) (before' : n' < issued') :
    Alike supply issued issued' (supply n).id (supply n').id

/-- Whether rows have the same number and texts, and ids that are alike. -/
structure Row.Alike (supply : Supply) (issued issued' : Nat) (row row' : Row) : Prop where
  rowid_eq : row.rowid = row'.rowid
  upload_eq : row.app.upload = row'.app.upload
  ids : supply.Alike issued issued' row.app.id row'.app.id

/-- Whether tables have rows that are alike, in the same order. -/
structure AppTable.Alike (supply : Supply) (issued issued' : Nat) (table table' : AppTable) :
    Prop where
  rows : Forall₂ (Row.Alike supply issued issued') table.rows table'.rows
  indexed_eq : table.indexed = table'.indexed

/-- Whether databases have the same migrations, and tables of apps that are alike. -/
structure Database.Alike (supply : Supply) (issued issued' : Nat) (content content' : Database) :
    Prop where
  apps : Option.Rel (AppTable.Alike supply issued issued') content.apps content'.apps
  migrations_eq : content.migrations = content'.migrations

section Alike

variable {supply : Supply} {issued issued' : Nat}

/-- Ids stay alike when one more stamp is given out on both sides. -/
lemma Supply.Alike.step {id id' : String} (alike : supply.Alike issued issued' id id') :
    supply.Alike (issued + 1) (issued' + 1) id id' := by
  cases alike with
  | elsewhere never => exact .elsewhere never
  | given before before' => exact .given (Nat.lt_succ_of_lt before) (Nat.lt_succ_of_lt before')

/-- Ids that are alike are both a certain one from elsewhere, or both another. -/
lemma Supply.Alike.eq_iff {id id' other : String} (alike : supply.Alike issued issued' id id')
    (never : ∀ n, (supply n).id ≠ other) : id = other ↔ id' = other := by
  cases alike with
  | elsewhere _ => rfl
  | given _ _ => exact iff_of_false (never _) (never _)

/-- Ids that are alike are not the next ones, if no id is given out twice. -/
lemma Supply.Alike.ne_next {id id' : String} (alike : supply.Alike issued issued' id id')
    (unique : Function.Injective fun n => (supply n).id) :
    id ≠ (supply issued).id ∧ id' ≠ (supply issued').id := by
  cases alike with
  | elsewhere never => exact ⟨(never _).symm, (never _).symm⟩
  | given before before' =>
      exact ⟨fun same => Nat.ne_of_lt before (unique same),
        fun same => Nat.ne_of_lt before' (unique same)⟩

/-- Rows stay alike when one more stamp is given out on both sides. -/
lemma Row.Alike.step {row row' : Row} (alike : row.Alike supply issued issued' row') :
    row.Alike supply (issued + 1) (issued' + 1) row' :=
  ⟨alike.rowid_eq, alike.upload_eq, alike.ids.step⟩

namespace AppTable

variable {table table' : AppTable} {rows rows' : List Row} {row row' : Row}

/-- Rows that are alike have the same numbers. -/
lemma map_rowid_eq (alike : Forall₂ (Row.Alike supply issued issued') rows rows') :
    rows.map Row.rowid = rows'.map Row.rowid := by
  induction alike with
  | nil => rfl
  | cons first rest ih => rw [List.map_cons, List.map_cons, first.rowid_eq, ih]

/-- Rows that are alike have the same texts. -/
lemma map_upload_eq (alike : Forall₂ (Row.Alike supply issued issued') rows rows') :
    (rows.map Row.app).map App.upload = (rows'.map Row.app).map App.upload := by
  induction alike with
  | nil => rfl
  | cons first rest ih =>
      rw [List.map_cons, List.map_cons, List.map_cons, List.map_cons, first.upload_eq, ih]

/-- Whether a number is in use is told by the numbers. -/
lemma any_rowid_eq (rows : List Row) (rowid : Int) :
    rows.any (·.rowid = rowid) = (rows.map Row.rowid).any (· = rowid) := by
  rw [List.any_map]
  rfl

/-- **The next number** is told by the numbers. -/
lemma nextRowid_eq (same : table.rows.map Row.rowid = table'.rows.map Row.rowid) :
    table.nextRowid = table'.nextRowid := by
  have free_eq : greatestFree table.rows = greatestFree table'.rows := by
    have length_eq : table.rows.length = table'.rows.length := by
      have lengths := congrArg List.length same
      rwa [List.length_map, List.length_map] at lengths
    unfold greatestFree
    simp only [any_rowid_eq, same, length_eq]
  have last_eq : table.rows.getLast?.map Row.rowid = table'.rows.getLast?.map Row.rowid := by
    rw [← List.getLast?_map, ← List.getLast?_map, same]
  unfold nextRowid
  rcases isLast : table.rows.getLast? with _ | last <;>
    rcases isLast' : table'.rows.getLast? with _ | last'
  · rfl
  · rw [isLast, isLast'] at last_eq
    cases last_eq
  · rw [isLast, isLast'] at last_eq
    cases last_eq
  · rw [isLast, isLast'] at last_eq
    have rowid_eq : last.rowid = last'.rowid := Option.some.inj last_eq
    dsimp only
    rw [rowid_eq, free_eq]

/-- Rows stay alike when rows that are alike are placed. -/
lemma place_alike (alike : Forall₂ (Row.Alike supply issued issued') rows rows')
    (placed : row.Alike supply issued issued' row') :
    Forall₂ (Row.Alike supply issued issued') (place row rows) (place row' rows') := by
  induction alike with
  | nil => exact .cons placed .nil
  | cons first rest ih =>
      unfold place
      rw [placed.rowid_eq, first.rowid_eq]
      split_ifs
      · exact .cons placed (.cons first rest)
      · exact .cons first ih

/-- Rows stay alike when those of a number are deleted. -/
lemma filter_alike (alike : Forall₂ (Row.Alike supply issued issued') rows rows') (rowid : Int) :
    Forall₂ (Row.Alike supply issued issued') (rows.filter (·.rowid ≠ rowid))
      (rows'.filter (·.rowid ≠ rowid)) := by
  induction alike with
  | nil => exact .nil
  | cons first rest ih =>
      rw [List.filter_cons, List.filter_cons, first.rowid_eq]
      split_ifs
      · exact .cons first ih
      · exact ih

/-- An id from elsewhere is in use in both of two tables or in neither. -/
lemma any_id_eq (alike : Forall₂ (Row.Alike supply issued issued') rows rows') {id : String}
    (never : ∀ n, (supply n).id ≠ id) :
    (rows.any fun row => row.app.id = id) = rows'.any fun row => row.app.id = id := by
  induction alike with
  | nil => rfl
  | cons first rest ih =>
      rw [List.any_cons, List.any_cons, ih, decide_eq_decide.2 (first.ids.eq_iff never)]

/-- The next ids of both sides are in use in neither of two tables. -/
lemma any_id_eq_false (alike : Forall₂ (Row.Alike supply issued issued') rows rows')
    (unique : Function.Injective fun n => (supply n).id) :
    (rows.any fun row => row.app.id = (supply issued).id) = false ∧
      (rows'.any fun row => row.app.id = (supply issued').id) = false := by
  induction alike with
  | nil => exact ⟨rfl, rfl⟩
  | cons first rest ih =>
      obtain ⟨isNew, isNew'⟩ := first.ids.ne_next unique
      rw [List.any_cons, List.any_cons, ih.1, ih.2, decide_eq_false isNew, decide_eq_false isNew']
      exact ⟨rfl, rfl⟩

namespace Alike

/-- Tables stay alike when one more stamp is given out on both sides. -/
lemma step (alike : table.Alike supply issued issued' table') :
    table.Alike supply (issued + 1) (issued' + 1) table' :=
  ⟨alike.rows.imp fun _ _ rows => rows.step, alike.indexed_eq⟩

/-- Tables with the index or without stay alike. -/
lemma with_indexed (alike : table.Alike supply issued issued' table') (indexed : Bool) :
    AppTable.Alike supply issued issued' { table with indexed } { table' with indexed } :=
  ⟨alike.rows, rfl⟩

/-- **Adding rows that are alike** is refused for one cause, or leaves tables that are alike. -/
lemma add (alike : table.Alike supply issued issued' table')
    (added : row.Alike supply issued issued' row')
    (used_eq : (table.rows.any fun other => other.app.id = row.app.id) =
      table'.rows.any fun other => other.app.id = row'.app.id) :
    (∃ cause, table.add row = .error cause ∧ table'.add row' = .error cause) ∨
      ∃ after after', table.add row = .ok after ∧ table'.add row' = .ok after' ∧
        after.Alike supply issued issued' after' := by
  have numbers_eq : (table.rows.any fun other => other.rowid = row.rowid) =
      table'.rows.any fun other => other.rowid = row'.rowid := by
    rw [any_rowid_eq, any_rowid_eq, map_rowid_eq alike.rows, added.rowid_eq]
  unfold AppTable.add
  rw [numbers_eq, used_eq]
  split_ifs
  · exact .inl ⟨_, rfl, rfl⟩
  · exact .inl ⟨_, rfl, rfl⟩
  · exact .inr ⟨_, _, rfl, rfl, place_alike alike.rows added, alike.indexed_eq⟩

/-- **Appending one upload**, under the next stamp of each, is refused for one cause or leaves
tables that are alike. -/
lemma append (alike : table.Alike supply issued issued' table')
    (unique : Function.Injective fun n => (supply n).id) (upload : Upload) :
    (∃ cause, table.append (upload.stamped (supply issued)) = .error cause ∧
        table'.append (upload.stamped (supply issued')) = .error cause) ∨
      ∃ after after', table.append (upload.stamped (supply issued)) = .ok after ∧
        table'.append (upload.stamped (supply issued')) = .ok after' ∧
        after.Alike supply (issued + 1) (issued' + 1) after' := by
  obtain ⟨isNew, isNew'⟩ := any_id_eq_false alike.rows unique
  refine alike.step.add ⟨nextRowid_eq (map_rowid_eq alike.rows), rfl, ?_⟩ (isNew.trans isNew'.symm)
  exact .given (Nat.lt_succ_self _) (Nat.lt_succ_self _)

/-- **Adding a row from elsewhere** is refused for one cause, or leaves tables that are alike. -/
lemma add_elsewhere (alike : table.Alike supply issued issued' table')
    (never : ∀ n, (supply n).id ≠ row.app.id) :
    (∃ cause, table.add row = .error cause ∧ table'.add row = .error cause) ∨
      ∃ after after', table.add row = .ok after ∧ table'.add row = .ok after' ∧
        after.Alike supply issued issued' after' :=
  alike.add ⟨rfl, rfl, .elsewhere never⟩ (any_id_eq alike.rows never)

/-- Tables stay alike when the row of a number is deleted. -/
lemma delete (alike : table.Alike supply issued issued' table') (rowid : Int) :
    (table.delete rowid).Alike supply issued issued' (table'.delete rowid) :=
  ⟨filter_alike alike.rows rowid, alike.indexed_eq⟩

end Alike

end AppTable

/-! ## Databases -/

namespace Database.Alike

variable {content content' : Database}

/-- Databases without tables of apps are alike if their migrations are the same. -/
lemma of_missing (missing : content.apps = none) :
    content.Alike supply issued issued' content := by
  refine ⟨?_, rfl⟩
  rw [missing]
  exact .none

/-- Databases that are alike have no tables of apps, or have tables that are alike. -/
lemma table_cases (alike : content.Alike supply issued issued' content') :
    content.apps = none ∧ content'.apps = none ∨
      ∃ table table', content.apps = some table ∧ content'.apps = some table' ∧
        table.Alike supply issued issued' table' := by
  obtain ⟨migrations, apps⟩ := content
  obtain ⟨migrations', apps'⟩ := content'
  obtain ⟨apps_rel, -⟩ := alike
  cases apps_rel with
  | some tables => exact .inr ⟨_, _, rfl, rfl, tables⟩
  | none => exact .inl ⟨rfl, rfl⟩

/-- Databases stay alike when one more stamp is given out on both sides. -/
lemma step (alike : content.Alike supply issued issued' content') :
    content.Alike supply (issued + 1) (issued' + 1) content' := by
  refine ⟨?_, alike.migrations_eq⟩
  rcases alike.table_cases with ⟨missing, missing'⟩ | ⟨table, table', found, found', tables⟩
  · rw [missing, missing']
    exact .none
  · rw [found, found']
    exact .some tables.step

/-- Databases stay alike with other tables that are alike. -/
lemma with_apps (alike : content.Alike supply issued issued' content') {issued₁ issued₁' : Nat}
    {table table' : AppTable} (tables : table.Alike supply issued₁ issued₁' table') :
    Database.Alike supply issued₁ issued₁' { content with apps := some table }
      { content' with apps := some table' } :=
  ⟨.some tables, alike.migrations_eq⟩

/-! ### Commands -/

/-- A question about the table of apps is answered alike, if it is where there are tables. -/
lemma of_question {α β : Type} {query : Database → Except SqlError α} {sketch : Sketch α}
    {view : α → β} (alike : content.Alike supply issued issued' content')
    (asks : (Command.question query sketch).AsksForApps)
    (answers : ∀ table table', content.apps = some table → content'.apps = some table' →
      table.Alike supply issued issued' table' → ∃ answer answer',
        (Command.question query sketch).outcome content = (.ok answer, content) ∧
        (Command.question query sketch).outcome content' = (.ok answer', content') ∧
        view answer = view answer') :
    ((Command.question query sketch).outcome content).1.map view =
      ((Command.question query sketch).outcome content').1.map view ∧
    ((Command.question query sketch).outcome content).2.Alike supply issued issued'
      ((Command.question query sketch).outcome content').2 := by
  rcases alike.table_cases with ⟨missing, missing'⟩ | ⟨table, table', found, found', tables⟩
  · rw [asks.outcome_of_missing missing, asks.outcome_of_missing missing']
    exact ⟨rfl, alike⟩
  · obtain ⟨answer, answer', asked, asked', same⟩ := answers table table' found found' tables
    rw [asked, asked']
    exact ⟨congrArg Except.ok same, alike⟩

/-- **Listings** are the same. -/
lemma listing (alike : content.Alike supply issued issued' content') :
    (Command.listing.outcome content).1.map Call.listAll.content =
      (Command.listing.outcome content').1.map Call.listAll.content ∧
    (Command.listing.outcome content).2.Alike supply issued issued'
      (Command.listing.outcome content').2 := by
  refine alike.of_question Command.asksForApps_listing fun table table' found found' tables =>
    ⟨_, _, Command.outcome_listing found, Command.outcome_listing found', ?_⟩
  show table.apps.map (Upload.summary ∘ App.upload) = table'.apps.map (Upload.summary ∘ App.upload)
  rw [← List.map_map, ← List.map_map]
  exact congrArg (List.map Upload.summary) (AppTable.map_upload_eq tables.rows)

/-- **Apps that are found** have the same texts. -/
lemma find (alike : content.Alike supply issued issued' content') (identifier : String) :
    ((Command.find identifier).outcome content).1.map (Call.find identifier).content =
      ((Command.find identifier).outcome content').1.map (Call.find identifier).content ∧
    ((Command.find identifier).outcome content).2.Alike supply issued issued'
      ((Command.find identifier).outcome content').2 := by
  refine alike.of_question (Command.asksForApps_find identifier)
    fun table table' found found' tables =>
      ⟨_, _, Command.outcome_find found identifier, Command.outcome_find found' identifier, ?_⟩
  show (table.apps.find? (·.identifier = identifier)).map App.upload =
    (table'.apps.find? (·.identifier = identifier)).map App.upload
  rw [Catalog.map_find?_upload, Catalog.map_find?_upload]
  exact congrArg _ (AppTable.map_upload_eq tables.rows)

/-- **Counts** are the same. -/
lemma count (alike : content.Alike supply issued issued' content') :
    (Command.count.outcome content).1.map id = (Command.count.outcome content').1.map id ∧
    (Command.count.outcome content).2.Alike supply issued issued'
      (Command.count.outcome content').2 :=
  alike.of_question Command.asksForApps_count fun _ _ found found' tables =>
    ⟨_, _, Command.outcome_count found, Command.outcome_count found', tables.rows.length_eq⟩

/-- **Storing one upload**, under the next stamp of each, is answered alike and leaves databases
that are alike. -/
lemma insert (alike : content.Alike supply issued issued' content')
    (unique : Function.Injective fun n => (supply n).id) (upload : Upload) :
    ((Command.insert (upload.stamped (supply issued))).outcome content).1.map
        (Call.insert upload).content =
      ((Command.insert (upload.stamped (supply issued'))).outcome content').1.map
        (Call.insert upload).content ∧
    ((Command.insert (upload.stamped (supply issued))).outcome content).2.Alike supply (issued + 1)
      (issued' + 1) ((Command.insert (upload.stamped (supply issued'))).outcome content').2 := by
  rcases alike.table_cases with ⟨missing, missing'⟩ | ⟨table, table', found, found', tables⟩
  · rw [(Command.asksForApps_insert _).outcome_of_missing missing,
      (Command.asksForApps_insert _).outcome_of_missing missing']
    exact ⟨rfl, alike.step⟩
  · rw [Command.outcome_insert found, Command.outcome_insert found']
    rcases tables.append unique upload with
      ⟨cause, refused, refused'⟩ | ⟨after, after', added, added', tables⟩
    · rw [refused, refused']
      exact ⟨rfl, alike.step⟩
    · rw [added, added']
      exact ⟨rfl, alike.step.with_apps tables⟩

/-- **An edit** leaves databases that are alike, if the row that it inserts has an id from
elsewhere. -/
lemma edit (alike : content.Alike supply issued issued' content') (change : Edit)
    (never : ∀ row, change = .insertRow row → ∀ n, (supply n).id ≠ row.app.id) :
    ((Command.edit change).outcome content).2.Alike supply issued issued'
      ((Command.edit change).outcome content').2 := by
  obtain ⟨migrations, apps⟩ := content
  obtain ⟨migrations', apps'⟩ := content'
  obtain rfl : migrations = migrations' := alike.migrations_eq
  rcases alike.table_cases with ⟨missing, missing'⟩ | ⟨table, table', found, found', tables⟩
  · -- without a table of apps the databases are equal, and no edit makes one
    cases missing
    cases missing'
    exact of_missing (by cases change <;> cases migrations <;> rfl)
  · cases change with
    | dropApps =>
        cases found
        cases found'
        exact ⟨.none, rfl⟩
    | forgetMigrations => rcases migrations with _ | done <;> exact ⟨alike.apps, rfl⟩
    | dropMigrations => rcases migrations with _ | done <;> exact ⟨alike.apps, rfl⟩
    | insertRow row =>
        rw [Command.outcome_insertRow found, Command.outcome_insertRow found']
        rcases tables.add_elsewhere (never row rfl) with
          ⟨cause, refused, refused'⟩ | ⟨after, after', added, added', tables⟩
        · rw [refused, refused']
          exact alike
        · rw [added, added']
          exact alike.with_apps tables
    | deleteRow rowid =>
        rw [Command.outcome_deleteRow found, Command.outcome_deleteRow found']
        exact alike.with_apps (tables.delete rowid)

/-- The same is recorded in databases that are alike. -/
lemma isMigrated_eq (alike : content.Alike supply issued issued' content') :
    content.isMigrated = content'.isMigrated := by
  unfold isMigrated
  rw [alike.migrations_eq]

/-- Tables stay alike when they are made sure of. -/
lemma getD (alike : content.Alike supply issued issued' content') :
    (content.apps.getD .created).Alike supply issued issued' (content'.apps.getD .created) := by
  rcases alike.table_cases with ⟨missing, missing'⟩ | ⟨table, table', found, found', tables⟩
  · rw [missing, missing']
    exact ⟨.nil, rfl⟩
  · rw [found, found']
    exact tables

/-- **Migrating** leaves databases that are alike. -/
lemma migrated (alike : content.Alike supply issued issued' content') (now : Int) :
    (content.migrated now).Alike supply issued issued' (content'.migrated now) := by
  unfold Database.migrated
  rw [alike.isMigrated_eq, alike.migrations_eq]
  split_ifs
  · exact ⟨alike.apps, rfl⟩
  · exact ⟨.some (alike.getD.with_indexed true), rfl⟩

/-- **A migration that is cut off** leaves databases that are alike. -/
lemma migratedFor (alike : content.Alike supply issued issued' content') (now : Int) (count : Nat) :
    (content.migratedFor now count).Alike supply issued issued'
      (content'.migratedFor now count) := by
  have begun : content.begun.Alike supply issued issued' content'.begun := by
    refine ⟨alike.apps, ?_⟩
    unfold Database.begun
    rw [alike.migrations_eq]
  unfold Database.migratedFor
  rw [alike.isMigrated_eq]
  split
  · exact alike
  · exact begun
  · exact begun
  · split_ifs
    · exact begun
    · exact begun.with_apps alike.getD
  · split_ifs
    · exact begun
    · exact begun.with_apps (alike.getD.with_indexed true)
  · exact alike.migrated now

end Database.Alike

end Alike

end AppCatalog
