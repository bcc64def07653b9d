import AppCatalog.Proofs.Database.Outcome
import AppCatalog.Proofs.Database.Resting
import AppCatalog.Store.Basic

/-!
# Stores over a table

A store over a database is nothing but the table in it, wherever the database is kept.

* **A backend follows another** (`Backend.Follows`) if it gives the same answers, stamps included,
  one call at a time, from states that a relation ties together. Then every plan comes to the same
  over both (`Backend.Follows.run_eq`).
* **A table is a backend** (`AppTable.backend`): it lists, finds and appends.
* **A basis serves tables** (`Basis.Serves`): a database file that is ready, a database in memory
  that is shared by its name, or a single private one. A command comes to what it comes to on the
  tables (`Basis.Serves.exists_of_perform`), and so does migrating
  (`Basis.Serves.exists_of_migrate`).
* **Every new database** that was migrated is such a basis (`Basis.exists_serves_of_migrate`).
* **A catalog holds a table** (`Catalog.Holds`) if its basis serves it in prepared tables. It
  follows its table (`Catalog.holds_follows`) and counts its rows (`Holds.count`).
-/

namespace AppCatalog

variable {α β σ τ : Type}

/-! ## Following a backend -/

/-- Whether a backend answers like another from states that a relation ties together, and stays tied
to it after every call. -/
structure Backend.Follows (backend : Backend σ) (leader : Backend τ) (tied : σ → τ → Prop) :
    Prop where
  answer_eq : ∀ {state lead}, tied state lead → ∀ call,
    (backend state call).1 = (leader lead call).1
  tied_after : ∀ {state lead}, tied state lead → ∀ call,
    tied (backend state call).2 (leader lead call).2

/-- **Plans come to the same** over a backend and one that it follows. -/
lemma Backend.Follows.run_eq {backend : Backend σ} {leader : Backend τ} {tied : σ → τ → Prop}
    (follows : backend.Follows leader tied) (plan : Plan α) {state : σ} {lead : τ}
    (start : tied state lead) :
    (plan.run backend state).1 = (plan.run leader lead).1 ∧
      tied (plan.run backend state).2 (plan.run leader lead).2 := by
  induction plan generalizing state lead with
  | done outcome => exact ⟨rfl, start⟩
  | ask call next ih =>
      simp only [Plan.run]
      rw [follows.answer_eq start call]
      exact ih _ (follows.tied_after start call)

/-! ## A table as a backend -/

/-- The answers of a table, with the number of stamps that were given out. -/
def AppTable.backend (supply : Supply) : Backend (AppTable × Nat)
  | (table, issued), .listAll => (.ok (table.apps.map App.summary), (table, issued))
  | (table, issued), .find identifier =>
    (.ok (table.apps.find? (·.identifier = identifier)), (table, issued))
  | (table, issued), .insert upload =>
    let app := upload.stamped (supply issued)
    match table.append app with
    | .ok table => (.ok app, (table, issued + 1))
    | .error cause => (.error (.refused cause), (table, issued + 1))

/-! ## Commands on a ready file -/

namespace DatabaseFile

variable {file : DatabaseFile} {session : Session} {logs : Bool} {content : Database}

/-- **A command on a ready file** comes to what it comes to on the tables there. -/
lemma Ready.exists_of_command (ready : file.Ready session.files logs content)
    (logged : session.logOpen = true → logs = true) (command : Command α) :
    ∃ session', (file.perform command).runIn session = ((command.outcome content).1, session') ∧
      file.Leaves session session' logs (command.outcome content).2 := by
  rcases done : command.onTables content with cause | ⟨answer, after⟩
  · rw [Command.outcome_of_error done]
    exact ready.runIn_perform_error logged done
  · rw [Command.outcome_of_ok done]
    exact ready.runIn_perform_ok logged done

end DatabaseFile

/-! ## A single private database -/

namespace Pool

variable {pool pool' : Pool} {content after : Database} {command : Command α}

/-- What comes after a success goes on from where it ends. -/
lemma runOn_bind_of_ok {first : Act α} {second : α → Act β} {answer : α}
    (success : first.runOn pool = (.ok answer, pool')) :
    (first >>= second).runOn pool = (second answer).runOn pool' := by
  have success : first pool = (.ok answer, pool') := success
  simp only [Act.runOn, ExceptT.run, bind, ExceptT.bind, ExceptT.mk, StateT.bind, StateT.run]
  rw [success]
  rfl

/-- What fails at first fails as a whole. -/
lemma runOn_bind_of_error {first : Act α} {second : α → Act β} {cause : SqlError}
    (failure : first.runOn pool = (.error cause, pool')) :
    (first >>= second).runOn pool = (.error cause, pool') := by
  have failure : first pool = (.error cause, pool') := failure
  simp only [Act.runOn, ExceptT.run, bind, ExceptT.bind, ExceptT.mk, StateT.bind, StateT.run]
  rw [failure]
  rfl

/-- A command is done on the database that is next. -/
lemma runOn_perform (pool : Pool) (command : Command α) :
    (perform command).runOn pool =
      match command.run pool.writable pool.next.1 with
      | .error cause => (.error cause, { pool with idle := pool.next.2, last? := some pool.next.1 })
      | .ok (answer, after) =>
        (.ok answer, { pool with idle := pool.next.2, last? := some after }) := by
  have run : (perform command).runOn pool =
      (match command.run pool.writable pool.next.1 with
        | .error cause => (do
            set { pool with idle := pool.next.2, last? := some pool.next.1 }
            throw cause : Act α)
        | .ok (answer, after) => (do
            set { pool with idle := pool.next.2, last? := some after }
            return answer : Act α)).runOn pool := rfl
  rw [run]
  rcases command.run pool.writable pool.next.1 with cause | ⟨answer, after⟩ <;> rfl

/-- Whether a pool hands out a single private database with these tables. -/
structure Serves (pool : Pool) (content : Database) : Prop where
  writable : pool.writable = true
  limit : ¬ 1 < pool.limit
  next_eq : pool.next = (content, [])

namespace Serves

/-- The pool after a command has another single database. -/
lemma after_command (serves : pool.Serves content) (after : Database) :
    Pool.Serves { pool with idle := [], last? := some after } after :=
  ⟨serves.writable, serves.limit, if_neg serves.limit⟩

/-- A command that tables answer is answered like that. -/
lemma runOn_perform_ok (serves : pool.Serves content) {answer : α}
    (answered : command.onTables content = .ok (answer, after)) :
    ∃ pool', (perform command).runOn pool = (.ok answer, pool') ∧ pool'.Serves after := by
  refine ⟨_, ?_, serves.after_command after⟩
  rw [runOn_perform, serves.next_eq, serves.writable, Command.run_true, answered]

/-- A command that tables refuse is refused. -/
lemma runOn_perform_error (serves : pool.Serves content) {cause : SqlError}
    (refused : command.onTables content = .error cause) :
    ∃ pool', (perform command).runOn pool = (.error cause, pool') ∧ pool'.Serves content := by
  refine ⟨_, ?_, serves.after_command content⟩
  rw [runOn_perform, serves.next_eq, serves.writable, Command.run_true, refused]

/-- **Migrating** comes to what it comes to on the tables, statement by statement. -/
lemma runOn_migrate (serves : pool.Serves content) (now : Int) :
    ∃ pool', (migrate now).runOn pool = (.ok (), pool') ∧ pool'.Serves (content.migrated now) := by
  let begun : Database := { content with migrations := some (content.migrations.getD []) }
  let made : Database :=
    { begun with apps := some { content.apps.getD .created with indexed := true } }
  have ensured : (Command.ensure [.createMigrations]).onTables content = .ok ((), begun) := rfl
  have checked : Command.checkMigrated.onTables begun = .ok (content.isMigrated, begun) := rfl
  obtain ⟨pool₁, first, serves⟩ := serves.runOn_perform_ok ensured
  obtain ⟨pool₂, second, serves⟩ := serves.runOn_perform_ok checked
  unfold migrate Database.migrated
  rw [runOn_bind_of_ok first, runOn_bind_of_ok second]
  rcases content.isMigrated with _ | _
  · have created : (Command.ensure [.createApps, .createIndex]).onTables begun = .ok ((), made) :=
      rfl
    have done : (Command.record ⟨schemaName, now⟩).onTables made =
        .ok ((), { made with
          migrations := some (content.migrations.getD [] ++ [⟨schemaName, now⟩]) }) := rfl
    obtain ⟨pool₃, third, serves⟩ := serves.runOn_perform_ok created
    obtain ⟨pool₄, fourth, serves⟩ := serves.runOn_perform_ok done
    exact ⟨pool₄, (runOn_bind_of_ok third).trans fourth, serves⟩
  · exact ⟨pool₂, rfl, serves⟩

end Serves

/-- Private databases that may not be written are not migrated. -/
lemma exists_of_migrate_readOnly (limit : Nat) (now : Int) :
    ∃ pool, (migrate now).runOn (fresh limit false) = (.error .readOnly, pool) := by
  have refused : (perform (.ensure [.createMigrations])).runOn (fresh limit false) =
      (.error .readOnly, { fresh limit false with idle := [], last? := some .blank }) := rfl
  unfold migrate
  rw [runOn_bind_of_error refused]
  exact ⟨_, rfl⟩

/-- Private databases of several connections are not migrated: the second statement gets a blank one
of its own. -/
lemma exists_of_migrate_many {limit : Nat} (many : 1 < limit) (now : Int) :
    ∃ pool, (migrate now).runOn (fresh limit true) =
      (.error (.noSuchTable "_migrations"), pool) := by
  let recorded : Database := ⟨some [], none⟩
  have first : (perform (.ensure [.createMigrations])).runOn (fresh limit true) =
      (.ok (), { fresh limit true with idle := [], last? := some recorded }) := rfl
  have next_eq : Pool.next { fresh limit true with idle := [], last? := some recorded } =
      (.blank, [recorded]) := if_pos many
  have second : (perform .checkMigrated).runOn
      { fresh limit true with idle := [], last? := some recorded } =
        (.error (.noSuchTable "_migrations"),
          { fresh limit true with idle := [recorded], last? := some .blank }) := by
    rw [runOn_perform, next_eq]
    rfl
  unfold migrate
  rw [runOn_bind_of_ok first, runOn_bind_of_error second]
  exact ⟨_, rfl⟩

/-- A new pool that can be migrated hands out a single database that may be written. -/
lemma serves_of_migrate {limit : Nat} {writable : Bool} {now : Int}
    (migrated : (migrate now).runOn (fresh limit writable) = (.ok (), pool)) :
    pool.Serves (.fresh now) := by
  rcases writable with _ | _
  · obtain ⟨pool', refused⟩ := exists_of_migrate_readOnly limit now
    cases refused.symm.trans migrated
  · by_cases many : 1 < limit
    · obtain ⟨pool', refused⟩ := exists_of_migrate_many many now
      cases refused.symm.trans migrated
    · have serves : (fresh limit true).Serves .blank := ⟨rfl, many, rfl⟩
      obtain ⟨pool', migrated', serves'⟩ := serves.runOn_migrate now
      cases migrated'.symm.trans migrated
      exact serves'

end Pool

/-! ## What serves tables -/

/-- Where a store over a database keeps it. -/
inductive Basis where
  /-- In a file that is or is not written ahead to a log, where directories are as they were. -/
  | file (file : DatabaseFile) (logs : Bool) (origin : Files)
  /-- In memory, for all connections to that name. -/
  | shared (keeper : Keeper) (name : Name)
  /-- In memory, for one connection. -/
  | single

namespace Basis

/-- Whether a connection serves these tables. -/
def Serves : Basis → Connection → Files → Database → Prop
  | file database logs origin, connection, files, content =>
    ∃ bearing, connection = .file database bearing ∧ database.Ready files logs content ∧
      (bearing.logOpen = true → logs = true) ∧ origin.Keeps files
  | shared keeper name, connection, _, content => connection = .shared keeper name true content
  | single, connection, _, content => ∃ pool, connection = .pool pool ∧ pool.Serves content

variable {basis : Basis} {connection : Connection} {files : Files} {content : Database}

/-- **A command over tables that are served** comes to what it comes to on the tables. -/
lemma Serves.exists_of_perform (serves : basis.Serves connection files content)
    (command : Command α) :
    ∃ connection' files', connection.perform files command =
        ((command.outcome content).1, connection', files') ∧
      basis.Serves connection' files' (command.outcome content).2 := by
  cases basis with
  | file database logs origin =>
      obtain ⟨bearing, rfl, ready, logged, keeps⟩ := serves
      have ready : database.Ready ({ bearing with files } : Session).files logs content := ready
      obtain ⟨session, performed, leaves⟩ := ready.exists_of_command logged command
      refine ⟨.file database session.toBearing, session.files, ?_, session.toBearing, rfl,
        leaves.ready, fun opened => leaves.opened.symm.trans opened, keeps.trans leaves.keeps⟩
      simp only [Connection.perform, Connection.onFile, performed]
  | shared keeper name =>
      cases serves
      unfold Connection.perform
      dsimp only
      rw [Command.run_true]
      rcases done : command.onTables content with cause | ⟨answer, after⟩
      · rw [Command.outcome_of_error done]
        exact ⟨_, _, rfl, rfl⟩
      · rw [Command.outcome_of_ok done]
        exact ⟨_, _, rfl, rfl⟩
  | single =>
      obtain ⟨pool, rfl, serves⟩ := serves
      rcases done : command.onTables content with cause | ⟨answer, after⟩
      · rw [Command.outcome_of_error done]
        obtain ⟨pool', performed, serves'⟩ := serves.runOn_perform_error done
        refine ⟨.pool pool', files, ?_, pool', rfl, serves'⟩
        simp only [Connection.perform, Connection.onPool, performed]
        rfl
      · rw [Command.outcome_of_ok done]
        obtain ⟨pool', performed, serves'⟩ := serves.runOn_perform_ok done
        refine ⟨.pool pool', files, ?_, pool', rfl, serves'⟩
        simp only [Connection.perform, Connection.onPool, performed]
        rfl

/-- **Migrating tables that are served** comes to what it comes to on the tables. -/
lemma Serves.exists_of_migrate (serves : basis.Serves connection files content) (now : Int) :
    ∃ connection' files', connection.migrate files now = (.ok (), connection', files') ∧
      basis.Serves connection' files' (content.migrated now) := by
  have outcome := Command.outcome_migrate content now
  cases basis with
  | file database logs origin =>
      obtain ⟨connection', files', performed, serves'⟩ := serves.exists_of_perform (.migrate now)
      rw [outcome] at performed serves'
      obtain ⟨bearing, rfl, -⟩ := serves
      exact ⟨connection', files', performed, serves'⟩
  | shared keeper name =>
      obtain ⟨connection', files', performed, serves'⟩ := serves.exists_of_perform (.migrate now)
      rw [outcome] at performed serves'
      cases serves
      exact ⟨connection', files', performed, serves'⟩
  | single =>
      obtain ⟨pool, rfl, serves⟩ := serves
      obtain ⟨pool', migrated, serves'⟩ := serves.runOn_migrate now
      refine ⟨.pool pool', files, ?_, pool', rfl, serves'⟩
      simp only [Connection.migrate, Connection.onPool, migrated]
      rfl

end Basis

namespace Files

variable {files files' : Files} {access : Access} {wal : Bool} {limit : Nat} {name : String}
  {connection : Connection}

/-- A shared database is blank when it is connected to. -/
lemma blank_of_connect {keeper : Keeper} {shared : Name} {writable : Bool} {content : Database}
    (connected :
      files.connect access wal limit name =
        (.ok (.shared keeper shared writable content), files')) :
    content = .blank := by
  unfold connect at connected
  split_ifs at connected
  · cases connected
  · split at connected
    · cases connected
    · cases connected
    · cases connected
      rfl
    · obtain ⟨_, _, _, isFile, _⟩ := exists_of_connectFile connected
      cases isFile

/-- Private databases are blank when they are connected to. -/
lemma fresh_of_connect {pool : Pool}
    (connected : files.connect access wal limit name = (.ok (.pool pool), files')) :
    ∃ writable, pool = .fresh limit writable := by
  unfold connect at connected
  split_ifs at connected
  · cases connected
  · split at connected
    · cases connected
    · cases connected
      exact ⟨_, rfl⟩
    · cases connected
    · obtain ⟨_, _, _, isFile, _⟩ := exists_of_connectFile connected
      cases isFile

end Files

namespace Basis

/-- **Every new database** that was opened and migrated serves the tables of the schema without
rows. -/
lemma exists_serves_of_migrate {files files₁ files₂ : Files} {access : Access} {wal : Bool}
    {limit : Nat} {name : String} {now : Int} {opened connection : Connection}
    (connected : files.connect access wal limit name = (.ok opened, files₁))
    (blank : ∀ file bearing, opened = .file file bearing → files.IsBlankAt file.place)
    (migrated : opened.migrate files₁ now = (.ok (), connection, files₂)) :
    ∃ basis : Basis, basis.Serves connection files₂ (.fresh now) := by
  cases opened with
  | file database bearing =>
      obtain ⟨bearing', logs, rfl, ready, opened⟩ :=
        Files.ready_of_migrate connected (blank _ _ rfl) migrated
      exact ⟨.file database logs files₂, bearing', rfl, ready, opened.symm.trans, .refl _⟩
  | shared keeper name writable content =>
      obtain rfl := Files.blank_of_connect connected
      rcases writable with _ | _
      · cases migrated
      · cases migrated
        exact ⟨.shared keeper name, rfl⟩
  | pool own =>
      obtain ⟨writable, rfl⟩ := Files.fresh_of_connect connected
      rcases performed : (Pool.migrate now).runOn (.fresh limit writable) with ⟨outcome, pool⟩
      simp only [Connection.migrate, Connection.onPool, performed] at migrated
      rcases outcome with cause | answer
      · cases migrated
      · cases migrated
        exact ⟨.single, pool, rfl, Pool.serves_of_migrate performed⟩

end Basis

/-! ## Catalogs that hold a table -/

namespace Catalog

variable {basis : Basis} {catalog : Catalog} {content : Database} {table : AppTable} {issued : Nat}

/-- Whether the store of a catalog is served from a basis. -/
def IsOver (basis : Basis) (catalog : Catalog) (content : Database) : Prop :=
  ∃ connection, catalog.store = .sql connection ∧ basis.Serves connection catalog.files content

/-- **A command over a basis** comes to what it comes to on the tables there. -/
lemma exists_of_perform {connection : Connection} (catalog : Catalog)
    (serves : basis.Serves connection catalog.files content) (command : Command α) :
    ∃ catalog', catalog.perform connection command = ((command.outcome content).1, catalog') ∧
      IsOver basis catalog' (command.outcome content).2 ∧ catalog'.issued = catalog.issued := by
  obtain ⟨connection', files', performed, serves'⟩ := serves.exists_of_perform command
  refine ⟨{ catalog with files := files', store := .sql connection' }, ?_,
    ⟨connection', rfl, serves'⟩, rfl⟩
  simp only [Catalog.perform, performed]

/-- Whether a catalog is over prepared tables, with that table of apps and so many stamps given
out. -/
def Holds (basis : Basis) (catalog : Catalog) (lead : AppTable × Nat) : Prop :=
  ∃ content, IsOver basis catalog content ∧ content.apps = some lead.1 ∧
    content.IsPrepared ∧ catalog.issued = lead.2

namespace Holds

variable {lead : AppTable × Nat} {supply : Supply}

/-- **One call.** A catalog answers a call as its table does, and holds the table after it. -/
lemma backend (holds : Holds basis catalog lead) (call : Call) :
    (Catalog.backend supply catalog call).1 = (AppTable.backend supply lead call).1 ∧
      Holds basis (Catalog.backend supply catalog call).2
        (AppTable.backend supply lead call).2 := by
  obtain ⟨table, issued⟩ := lead
  obtain ⟨content, ⟨connection, store_eq, serves⟩, found, prepared, rfl⟩ := holds
  cases call with
  | listAll =>
      obtain ⟨catalog', performed, isOver, issued_eq⟩ :=
        exists_of_perform catalog serves Command.listing
      rw [Command.outcome_listing found] at performed isOver
      show catalog.listAll.1 = _ ∧ Holds basis catalog.listAll.2 _
      unfold Catalog.listAll
      rw [store_eq]
      dsimp only
      rw [performed]
      exact ⟨rfl, content, isOver, found, prepared, issued_eq⟩
  | find identifier =>
      obtain ⟨catalog', performed, isOver, issued_eq⟩ :=
        exists_of_perform catalog serves (Command.find identifier)
      rw [Command.outcome_find found] at performed isOver
      show (catalog.find identifier).1 = _ ∧ Holds basis (catalog.find identifier).2 _
      unfold Catalog.find
      rw [store_eq]
      dsimp only
      rw [performed]
      exact ⟨rfl, content, isOver, found, prepared, issued_eq⟩
  | insert upload =>
      obtain ⟨catalog', performed, isOver, issued_eq⟩ :=
        exists_of_perform ⟨catalog.files, .sql connection, catalog.issued + 1⟩ serves
          (Command.insert (upload.stamped (supply catalog.issued)))
      rw [Command.outcome_insert found] at performed isOver
      show (catalog.insert supply upload).1 = _ ∧ Holds basis (catalog.insert supply upload).2 _
      unfold Catalog.insert AppTable.backend
      rw [store_eq]
      dsimp only
      rw [performed]
      rcases appended : table.append (upload.stamped (supply catalog.issued)) with cause | after
      · rw [appended] at isOver
        exact ⟨rfl, content, isOver, found, prepared, issued_eq⟩
      · rw [appended] at isOver
        exact ⟨rfl, _, isOver, rfl, prepared.with_apps _, issued_eq⟩

/-- A catalog that holds a table has given out so many stamps. -/
lemma issued_eq (holds : Holds basis catalog lead) : catalog.issued = lead.2 := by
  obtain ⟨content, isOver, found, prepared, issued_eq⟩ := holds
  exact issued_eq

/-- A catalog counts the rows of its table. -/
lemma count (holds : Holds basis catalog lead) :
    ∃ catalog', catalog.count? = some (.ok lead.1.rows.length, catalog') ∧
      Holds basis catalog' lead := by
  obtain ⟨content, ⟨connection, store_eq, serves⟩, found, prepared, issued_eq⟩ := holds
  obtain ⟨catalog', performed, isOver, same⟩ := exists_of_perform catalog serves Command.count
  rw [Command.outcome_count found] at performed isOver
  refine ⟨catalog', ?_, content, isOver, found, prepared, same.trans issued_eq⟩
  unfold Catalog.count?
  rw [store_eq]
  dsimp only
  rw [performed]

end Holds

/-- **A catalog follows its table**, call by call. -/
lemma holds_follows (basis : Basis) (supply : Supply) :
    (Catalog.backend supply).Follows (AppTable.backend supply) (Holds basis) where
  answer_eq holds call := (holds.backend call).1
  tied_after holds call := (holds.backend call).2

end Catalog
end AppCatalog
