import Mathlib.Tactic.SplitIfs
import AppCatalog.Proofs.Database.Table
import AppCatalog.Store.Command

/-!
# What commands come to on tables

A command is answered from the tables of a database alone, or refused, and a refusal leaves them as
they are.

* **Prepared tables** (`Database.IsPrepared`) have the schema recorded as applied, and migrating
  them changes nothing (`IsPrepared.migrated_eq`).
* **Tables after a migration** (`Database.migrated`) are prepared, and have the same apps whenever
  it takes place.
* **The outcome of a command** (`Command.outcome`) is its answer with the tables after it, one lemma
  for each command. A command that changes the table of apps leaves another table or is refused
  (`Command.outcome_of_change`).
* **Without a table of apps** whatever asks for it (`Command.AsksForApps`) is refused and changes
  nothing (`AsksForApps.outcome_of_missing`).
-/

namespace AppCatalog

variable {α : Type}

/-! ## Prepared tables -/

namespace Database

/-- Whether the schema is recorded as applied. -/
def IsPrepared (content : Database) : Prop :=
  ∃ applied, content.migrations = some applied ∧ content.isMigrated = true

/-- The tables after a migration. -/
def migrated (content : Database) (now : Int) : Database :=
  if content.isMigrated then { content with migrations := some (content.migrations.getD []) }
  else
    { migrations := some (content.migrations.getD [] ++ [⟨schemaName, now⟩])
      apps := some { content.apps.getD .created with indexed := true } }

variable {content : Database} {table : AppTable}

/-- The table that is there is the one that is asked for. -/
lemma appTable_eq (found : content.apps = some table) : content.appTable = .ok table := by
  unfold appTable
  rw [found]

/-- A table that is not there is missed. -/
lemma appTable_eq_error (missing : content.apps = none) :
    content.appTable = .error (.noSuchTable "apps") := by
  unfold appTable
  rw [missing]

/-- Another table of apps leaves a database prepared. -/
lemma IsPrepared.with_apps (prepared : content.IsPrepared) (apps : Option AppTable) :
    IsPrepared { content with apps } := prepared

/-- A migration succeeds. -/
lemma migrate_eq (content : Database) (now : Int) :
    content.migrate now = .ok (content.migrated now) := by
  unfold migrate migrationSteps migrated
  split_ifs <;> rfl

/-- After a migration tables are prepared. -/
lemma isPrepared_migrated (content : Database) (now : Int) :
    (content.migrated now).IsPrepared := by
  unfold migrated
  split_ifs with done
  · exact ⟨_, rfl, done⟩
  · refine ⟨_, rfl, ?_⟩
    unfold isMigrated
    simp

/-- Prepared tables stay as they are. -/
lemma IsPrepared.migrated_eq (prepared : content.IsPrepared) (now : Int) :
    content.migrated now = content := by
  obtain ⟨applied, migrations_eq, done⟩ := prepared
  unfold migrated
  rw [if_pos done, migrations_eq, Option.getD_some, ← migrations_eq]

end Database

/-! ## Outcomes of commands -/

/-- What a command comes to on tables, and the tables after it. A refusal leaves them alone. -/
def Command.outcome (command : Command α) (content : Database) : Except StoreError α × Database :=
  match command.onTables content with
  | .error cause => (.error (.refused cause), content)
  | .ok (answer, after) => (.ok answer, after)

/-- What a command comes to that tables answer. -/
lemma Command.outcome_of_ok {command : Command α} {content after : Database} {answer : α}
    (answered : command.onTables content = .ok (answer, after)) :
    command.outcome content = (.ok answer, after) := by
  unfold outcome
  rw [answered]

/-- What a command comes to that tables refuse. -/
lemma Command.outcome_of_error {command : Command α} {content : Database} {cause : SqlError}
    (refused : command.onTables content = .error cause) :
    command.outcome content = (.error (.refused cause), content) := by
  unfold outcome
  rw [refused]

namespace Command

variable {content : Database} {table : AppTable}

/-- What the listing of a table comes to. -/
lemma outcome_listing (found : content.apps = some table) :
    listing.outcome content = (.ok (table.apps.map App.summary), content) := by
  refine outcome_of_ok ?_
  show (content.summaries).map (·, content) = _
  rw [Database.summaries, Database.appTable_eq found]
  rfl

/-- What looking for an app comes to on a table. -/
lemma outcome_find (found : content.apps = some table) (identifier : String) :
    (find identifier).outcome content =
      (.ok (table.apps.find? (·.identifier = identifier)), content) := by
  refine outcome_of_ok ?_
  show (content.find identifier).map (·, content) = _
  rw [Database.find, Database.appTable_eq found]
  rfl

/-- What counting comes to on a table. -/
lemma outcome_count (found : content.apps = some table) :
    count.outcome content = (.ok table.rows.length, content) := by
  refine outcome_of_ok ?_
  show (content.count).map (·, content) = _
  rw [Database.count, Database.appTable_eq found]
  rfl

/-- What a change of a table comes to: it is refused, or leaves another table. -/
def changed (content : Database) (answer : α) (result : Except SqlError AppTable) :
    Except StoreError α × Database :=
  match result with
  | .error cause => (.error (.refused cause), content)
  | .ok table => (.ok answer, { content with apps := some table })

/-- What a command comes to that changes the table of apps. -/
lemma outcome_of_change {command : Command α} {answer : α} {result : Except SqlError AppTable}
    (does : command.onTables content =
      result.map fun table => (answer, { content with apps := some table })) :
    command.outcome content = changed content answer result := by
  rcases result with cause | table
  · exact outcome_of_error does
  · exact outcome_of_ok does

/-- What adding an app comes to on a table. -/
lemma outcome_insert (found : content.apps = some table) (app : App) :
    (insert app).outcome content = changed content app (table.append app) := by
  refine outcome_of_change ?_
  show (content.insert app).map (app, ·) = _
  unfold Database.insert
  rw [Database.appTable_eq found]
  show (do return { content with apps := some (← table.append app) } :
    Except SqlError Database).map _ = _
  cases table.append app <;> rfl

/-- What another program's row comes to on a table. -/
lemma outcome_insertRow (found : content.apps = some table) (row : Row) :
    (edit (.insertRow row)).outcome content = changed content () (table.add row) := by
  refine outcome_of_change ?_
  show (content.edit (.insertRow row)).map ((), ·) = _
  unfold Database.edit
  rw [Database.appTable_eq found]
  show (do return { content with apps := some (← table.add row) } :
    Except SqlError Database).map _ = _
  cases table.add row <;> rfl

/-- What a deletion by another program comes to on a table. -/
lemma outcome_deleteRow (found : content.apps = some table) (rowid : Int) :
    (edit (.deleteRow rowid)).outcome content = changed content () (.ok (table.delete rowid)) := by
  refine outcome_of_change ?_
  show (content.edit (.deleteRow rowid)).map ((), ·) = _
  unfold Database.edit
  rw [Database.appTable_eq found]
  rfl

/-- Whether a command asks for the table of apps before anything else. -/
def AsksForApps (command : Command α) : Prop :=
  ∃ next : Database → AppTable → Except SqlError (α × Database),
    ∀ content, command.onTables content = content.appTable.bind (next content)

/-- **Without a table of apps** a command that asks for it is refused. -/
lemma AsksForApps.outcome_of_missing {command : Command α} (asks : command.AsksForApps)
    (missing : content.apps = none) :
    command.outcome content = (.error (.refused (.noSuchTable "apps")), content) := by
  obtain ⟨next, onTables_eq⟩ := asks
  refine outcome_of_error ?_
  rw [onTables_eq, Database.appTable_eq_error missing]
  rfl

/-- The listing asks for the table of apps. -/
lemma asksForApps_listing : listing.AsksForApps := by
  refine ⟨fun content table => .ok (table.apps.map App.summary, content), fun content => ?_⟩
  show (content.summaries).map (·, content) = _
  unfold Database.summaries
  cases content.appTable <;> rfl

/-- Whoever looks for an app asks for the table of apps. -/
lemma asksForApps_find (identifier : String) : (find identifier).AsksForApps := by
  refine ⟨fun content table => .ok (table.apps.find? (·.identifier = identifier), content),
    fun content => ?_⟩
  show (content.find identifier).map (·, content) = _
  unfold Database.find
  cases content.appTable <;> rfl

/-- Counting asks for the table of apps. -/
lemma asksForApps_count : count.AsksForApps := by
  refine ⟨fun content table => .ok (table.rows.length, content), fun content => ?_⟩
  show (content.count).map (·, content) = _
  unfold Database.count
  cases content.appTable <;> rfl

/-- Whoever adds an app asks for the table of apps. -/
lemma asksForApps_insert (app : App) : (insert app).AsksForApps := by
  refine ⟨fun content table => (table.append app).map fun after =>
    (app, { content with apps := some after }), fun content => ?_⟩
  show (content.insert app).map (app, ·) = _
  unfold Database.insert
  rcases content.appTable with cause | table
  · rfl
  · show (do return { content with apps := some (← table.append app) } :
      Except SqlError Database).map _ = (table.append app).map _
    cases table.append app <;> rfl

/-- What migrating tables comes to. -/
lemma outcome_migrate (content : Database) (now : Int) :
    (migrate now).outcome content = (.ok (), content.migrated now) := by
  refine outcome_of_ok ?_
  show (content.migrate now).map ((), ·) = _
  rw [content.migrate_eq]
  rfl

end Command

end AppCatalog
