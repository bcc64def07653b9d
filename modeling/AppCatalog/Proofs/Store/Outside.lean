import AppCatalog.Proofs.Database.Rows
import AppCatalog.Proofs.Store.Tables

/-!
# Databases that others open

Other programs open the database of a store, change rows in it and close it again, while the store
is open or closed; and the store itself is closed and opened again. None of that takes a table from
under the store.

* **The table in a database** (`Catalog.tableIn`) is read off the file, or off the memory that holds
  the database.
* **A catalog stands over a table** (`Catalog.Stands`) if its store is open and served from prepared
  tables, or closed and its file is at rest.
* **An edit from outside** (`Stands.edit`), by whoever may change the database
  (`Catalog.IsOpenTo`), comes to what it comes to on the table.
* **Calls** (`Stands.call`), **closing** (`Stands.close`), **opening** (`Stands.reopen`) and
  **migrating** (`Stands.migrate`) leave the catalog standing over the table after them.
-/

namespace AppCatalog

variable {α : Type}

/-! ## The table in a database -/

/-- The table of apps in the database file at a place, if there is one. -/
def Files.tableAt? (files : Files) (place : Place) : Option AppTable :=
  match files.at? place with
  | some (.file (.database _ content)) => content.apps
  | _ => none

/-- A file at rest has the table that is in its tables. -/
lemma DatabaseFile.Rests.tableAt?_eq {file : DatabaseFile} {files : Files} {logs : Bool}
    {content : Database} (rests : file.Rests files logs content) :
    files.tableAt? file.place = content.apps := by
  unfold Files.tableAt?
  rw [rests.holds]

/-- The place of the file in which a store keeps its database; none in memory. -/
def Basis.place? : Basis → Option Place
  | file database _ _ => some database.place
  | shared _ _ => none
  | single => none

/-- The place of the file of a connection; none in memory. -/
def Connection.place? : Connection → Option Place
  | file database _ => some database.place
  | shared .. => none
  | pool _ => none

/-- What serves tables keeps them where the connection finds them. -/
lemma Basis.Serves.place?_eq {basis : Basis} {connection : Connection} {files : Files}
    {content : Database} (serves : basis.Serves connection files content) :
    basis.place? = connection.place? := by
  cases basis with
  | file database logs origin =>
      obtain ⟨bearing, rfl, -⟩ := serves
      rfl
  | shared keeper name =>
      cases serves
      rfl
  | single =>
      obtain ⟨pool, rfl, -⟩ := serves
      rfl

namespace Catalog

/-- The table of apps in the database of a catalog, which is in a file at a place or in memory. -/
def tableIn (place? : Option Place) (catalog : Catalog) : Option AppTable :=
  match place?, catalog.store with
  | some place, _ => catalog.files.tableAt? place
  | none, .sql (.shared _ _ _ content) => content.apps
  | none, .sql (.pool pool) => pool.next.1.apps
  | none, _ => none

variable {place? : Option Place} {catalog : Catalog} {table : AppTable}

/-- Whether the database of a catalog is prepared and holds that table, be the store open or
closed. -/
inductive Stands (place? : Option Place) (catalog : Catalog) (table : AppTable) : Prop where
  /-- The store is open. -/
  | opened (basis : Basis) (same : basis.place? = place?)
    (holds : Holds basis catalog (table, catalog.issued))
  /-- The store is closed, and its file at rest. -/
  | closed (file : DatabaseFile) (logs : Bool) (content : Database)
    (same : some file.place = place?) (store_eq : catalog.store = .closed)
    (rests : file.Rests catalog.files logs content) (found : content.apps = some table)
    (prepared : content.IsPrepared)

/-- A catalog that holds a table stands over it. -/
lemma Holds.stands {basis : Basis} {issued : Nat} (holds : Holds basis catalog (table, issued)) :
    Stands basis.place? catalog table := by
  refine .opened basis rfl ?_
  obtain ⟨content, isOver, found, prepared, issued_eq⟩ := holds
  exact ⟨content, isOver, found, prepared, rfl⟩

/-- The table over which a catalog stands is the one in its database. -/
lemma Stands.tableIn_eq (stands : Stands place? catalog table) :
    catalog.tableIn place? = some table := by
  cases stands with
  | opened basis same holds =>
      obtain ⟨content, ⟨connection, store_eq, serves⟩, found, -⟩ := holds
      rw [← found, ← same]
      cases basis with
      | file database logs origin =>
          obtain ⟨bearing, -, ready, -⟩ := serves
          exact ready.toRests.tableAt?_eq
      | shared keeper name =>
          unfold tableIn Basis.place?
          rw [store_eq, serves]
      | single =>
          obtain ⟨pool, rfl, serves⟩ := serves
          unfold tableIn Basis.place?
          rw [store_eq]
          dsimp only
          rw [serves.next_eq]
  | closed file logs content same store_eq rests found prepared =>
      rw [← found, ← same]
      exact rests.tableAt?_eq

/-! ## Edits from outside -/

/-- Whether who opens the database of a catalog under a name may change it: it is the file at the
place of the catalog's database, or the database in memory that the catalog shares. -/
def IsOpenTo (place? : Option Place) (catalog : Catalog) (name : String) : Prop :=
  ∃ editor files, catalog.files.connect .write false 1 name = (.ok editor, files) ∧
    match place?, editor, catalog.store with
    | some place, .file file _, _ => file.place = place ∧ file.MayChange false catalog.files
    | none, .shared keeper name writable _, .sql (.shared keeper' name' _ _) =>
      keeper = keeper' ∧ name = name' ∧ writable = true
    | _, _, _ => False

end Catalog

namespace DatabaseFile

variable {file editor : DatabaseFile} {files files₁ : Files} {logs : Bool} {content : Database}
  {bearing : Bearing}

/-- **A command of another program** on a file at rest comes to what it comes to on the tables
there. -/
lemma Rests.exists_of_editor (rests : file.Rests files logs content) {access : Access} {limit : Nat}
    {name : String}
    (connected : files.connect access false limit name = (.ok (.file editor bearing), files₁))
    (same : editor.place = file.place) (may : editor.MayChange false files)
    (command : Command α) :
    ∃ bearing' files₂, (Connection.file editor bearing).perform files₁ command =
        ((command.outcome content).1, .file editor bearing', files₂) ∧
      editor.Ready files₂ logs (command.outcome content).2 ∧ files.Keeps files₂ := by
  obtain ⟨ready, logged, keeps⟩ := Files.ready_of_connect rests connected same may
  rw [FileUse.logsWith_false] at ready logged
  have ready : editor.Ready ({ bearing with files := files₁ } : Session).files logs content := ready
  obtain ⟨session, performed, leaves⟩ := ready.exists_of_command logged command
  refine ⟨session.toBearing, session.files, ?_, leaves.ready, keeps.trans leaves.keeps⟩
  simp only [Connection.perform, Connection.onFile, performed]

end DatabaseFile

namespace Catalog

variable {place? : Option Place} {catalog : Catalog} {table : AppTable}

/-- What another program that used the file of the store leaves behind: the files as they are, or as
they are once it closed its connection. -/
lemma leftBy_file (catalog : Catalog) {kept editor : DatabaseFile} {bearing : Bearing}
    (store_eq : catalog.store = .sql (.file kept bearing)) (same : editor.place = kept.place)
    (bearing' : Bearing) :
    ∃ files, catalog.leftBy (.file editor bearing') = { catalog with files } ∧
      (files = catalog.files ∨ files = (Connection.file editor bearing').close catalog.files) := by
  unfold leftBy
  rw [store_eq]
  obtain ⟨_ | _, tally⟩ := bearing
  · exact ⟨_, rfl, .inr rfl⟩
  · dsimp only
    rw [if_pos same]
    refine ⟨catalog.files, ?_, .inl rfl⟩
    rw [← store_eq]

/-- The answer to a change of a table. -/
def answerTo (result : Except SqlError AppTable) : Except StoreError Unit :=
  match result with
  | .error cause => .error (.refused cause)
  | .ok _ => .ok ()

/-- The table after a change, which stays as it is if the change is refused. -/
def tableAfter (table : AppTable) (result : Except SqlError AppTable) : AppTable :=
  match result with
  | .error _ => table
  | .ok table => table

/-- What a change leaves of prepared tables. -/
lemma changed_prepared {content : Database} (found : content.apps = some table)
    (prepared : content.IsPrepared) (result : Except SqlError AppTable) :
    (Command.changed content () result).1 = answerTo result ∧
      (Command.changed content () result).2.apps = some (tableAfter table result) ∧
      (Command.changed content () result).2.IsPrepared := by
  rcases result with cause | after
  · exact ⟨rfl, found, prepared⟩
  · exact ⟨rfl, rfl, prepared.with_apps _⟩

/-- An edit is done over the connection of the other program, and what that leaves is what the
catalog finds. -/
lemma edit_eq {name : String} {edit : Edit} {editor connection : Connection}
    {answer : Except StoreError Unit} {files₁ files₂ : Files}
    (connected : catalog.files.connect .write false 1 name = (.ok editor, files₁))
    (performed : (catalog.joinedBy editor).perform files₁ (.edit edit) =
      (answer, connection, files₂)) :
    catalog.edit name edit = (answer, leftBy { catalog with files := files₂ } connection) := by
  unfold Catalog.edit
  rw [connected]
  dsimp only
  rw [performed]

section edits

variable {name : String} {change : Edit} {result : Except SqlError AppTable} {files₁ : Files}
  (does : ∀ content : Database, content.apps = some table →
    (Command.edit change).outcome content = Command.changed content () result)

include does

/-- An edit of the file of an open store. -/
lemma Holds.edit_file {kept editor : DatabaseFile} {logs : Bool} {origin : Files}
    {bearing : Bearing} {issued : Nat}
    (holds : Holds (.file kept logs origin) catalog (table, issued))
    (connected : catalog.files.connect .write false 1 name = (.ok (.file editor bearing), files₁))
    (same : editor.place = kept.place) (may : editor.MayChange false catalog.files) :
    (catalog.edit name change).1 = answerTo result ∧
      Holds (.file kept logs origin) (catalog.edit name change).2
        (tableAfter table result, issued) := by
  obtain ⟨content, ⟨_, store_eq, bearing', rfl, ready, logged, keeps⟩, found, prepared,
    issued_eq⟩ := holds
  obtain ⟨answer_eq, found', prepared'⟩ := changed_prepared found prepared result
  obtain ⟨bearing'', files₂, performed, ready₂, keeps₂⟩ :=
    ready.toRests.exists_of_editor connected same may (Command.edit change)
  rw [does content found] at performed ready₂
  have edited := edit_eq connected performed
  obtain ⟨files₃, left, cases⟩ :=
    leftBy_file { catalog with files := files₂ } store_eq same bearing''
  rw [left] at edited
  -- the other program takes nothing but the log with it, or not even that
  have ended : editor.Ready files₃ logs (Command.changed content () result).2 ∧
      files₂.Keeps files₃ := by
    rcases cases with rfl | rfl
    · exact ⟨ready₂, .refl _⟩
    · exact ready₂.close_connection bearing''
  have kept' := ready.of_keeps (keeps₂.trans ended.2) (ended.1.toRests.of_place same.symm)
  rw [edited]
  exact ⟨answer_eq, _, ⟨_, store_eq, bearing', rfl, kept', logged,
    keeps.trans (keeps₂.trans ended.2)⟩, found', prepared', issued_eq⟩

/-- An edit of the database in memory that an open store shares. -/
lemma Holds.edit_shared {keeper : Keeper} {shared : Name} {content : Database} {issued : Nat}
    (holds : Holds (.shared keeper shared) catalog (table, issued))
    (connected : catalog.files.connect .write false 1 name =
      (.ok (.shared keeper shared true content), files₁)) :
    (catalog.edit name change).1 = answerTo result ∧
      Holds (.shared keeper shared) (catalog.edit name change).2
        (tableAfter table result, issued) := by
  obtain ⟨content', ⟨_, store_eq, rfl⟩, found, prepared, issued_eq⟩ := holds
  obtain ⟨answer_eq, found', prepared'⟩ := changed_prepared found prepared result
  have joined : catalog.joinedBy (.shared keeper shared true content) =
      .shared keeper shared true content' := by
    unfold joinedBy
    rw [store_eq]
    exact congrArg (Connection.shared keeper shared true) (if_pos ⟨rfl, rfl⟩)
  have serves : (Basis.shared keeper shared).Serves
      (catalog.joinedBy (.shared keeper shared true content)) files₁ content' := joined
  obtain ⟨connection, files₂, performed, rfl⟩ := serves.exists_of_perform (.edit change)
  rw [does content' found] at performed
  have left : ∀ after : Database,
      leftBy { catalog with files := files₂ } (.shared keeper shared true after) =
        { catalog with files := files₂, store := .sql (.shared keeper shared true after) } := by
    intro after
    unfold leftBy
    rw [store_eq]
    dsimp only
    rw [if_pos ⟨rfl, rfl⟩]
  rw [edit_eq connected performed, left]
  exact ⟨answer_eq, _, ⟨_, rfl, rfl⟩, found', prepared', issued_eq⟩

/-- An edit of the file of a closed store. -/
lemma edit_closed {file editor : DatabaseFile} {logs : Bool} {content : Database}
    {bearing : Bearing} (store_eq : catalog.store = .closed)
    (rests : file.Rests catalog.files logs content) (found : content.apps = some table)
    (prepared : content.IsPrepared)
    (connected : catalog.files.connect .write false 1 name = (.ok (.file editor bearing), files₁))
    (same : editor.place = file.place) (may : editor.MayChange false catalog.files) :
    (catalog.edit name change).1 = answerTo result ∧
      Stands (some file.place) (catalog.edit name change).2 (tableAfter table result) := by
  obtain ⟨answer_eq, found', prepared'⟩ := changed_prepared found prepared result
  obtain ⟨bearing', files₂, performed, ready, -⟩ :=
    rests.exists_of_editor connected same may (Command.edit change)
  rw [does content found] at performed ready
  have left : leftBy { catalog with files := files₂ } (.file editor bearing') =
      { catalog with files := (Connection.file editor bearing').close files₂ } := by
    unfold leftBy
    rw [store_eq]
  rw [edit_eq connected performed, left]
  have closed := (ready.close_connection bearing').1
  exact ⟨answer_eq, .closed file logs _ rfl store_eq (closed.toRests.of_place same.symm) found'
    prepared'⟩

/-- **An edit from outside** is answered as the table takes it, and leaves the catalog standing over
the table after it. -/
lemma Stands.edit (stands : Stands place? catalog table)
    (isOpen : catalog.IsOpenTo place? name) :
    (catalog.edit name change).1 = answerTo result ∧
      Stands place? (catalog.edit name change).2 (tableAfter table result) := by
  obtain ⟨editor, files₁, connected, joins⟩ := isOpen
  cases stands with
  | opened basis same holds =>
      cases same
      cases basis with
      | file kept logs origin =>
          cases editor with
          | file editor bearing =>
              exact (holds.edit_file does connected joins.1 joins.2).imp_right Holds.stands
          | shared => exact joins.elim
          | pool => exact joins.elim
      | shared keeper shared =>
          obtain ⟨_, ⟨_, store_eq, rfl⟩, -⟩ := id holds
          cases editor with
          | file => exact joins.elim
          | shared keeper' shared' writable content =>
              rw [store_eq] at joins
              obtain ⟨rfl, rfl, rfl⟩ := joins
              exact (holds.edit_shared does connected).imp_right Holds.stands
          | pool => exact joins.elim
      | single =>
          obtain ⟨_, ⟨_, store_eq, pool, rfl, -⟩, -⟩ := id holds
          rw [store_eq] at joins
          cases editor <;> exact joins.elim
  | closed file logs content same store_eq rests found prepared =>
      cases same
      cases editor with
      | file editor bearing =>
          exact edit_closed does store_eq rests found prepared connected joins.1 joins.2
      | shared => exact joins.elim
      | pool => exact joins.elim

end edits

/-! ## Calls, closing and opening -/

/-- Closing a store over a file leaves the file ready with its tables, and keeps directories. -/
lemma Holds.close_file {file : DatabaseFile} {logs : Bool} {origin : Files} {lead : AppTable × Nat}
    (holds : Holds (.file file logs origin) catalog lead) :
    ∃ content : Database, file.Ready catalog.close logs content ∧ origin.Keeps catalog.close ∧
      content.apps = some lead.1 ∧ content.IsPrepared := by
  obtain ⟨content, ⟨_, store_eq, bearing, rfl, ready, -, keeps⟩, found, prepared, -⟩ := holds
  have left : catalog.close = (Connection.file file bearing).close catalog.files := by
    unfold Catalog.close
    rw [store_eq]
  obtain ⟨closed, keeps'⟩ := ready.close_connection bearing
  rw [left]
  exact ⟨content, closed, keeps.trans keeps', found, prepared⟩

namespace Stands

/-- An open catalog holds the table over which it stands. -/
lemma exists_holds (stands : Stands place? catalog table) (isOpen : catalog.store ≠ .closed) :
    ∃ basis : Basis, basis.place? = place? ∧ Holds basis catalog (table, catalog.issued) := by
  cases stands with
  | opened basis same holds => exact ⟨basis, same, holds⟩
  | closed file logs content same store_eq => exact absurd store_eq isOpen

/-- **A call** is answered as the table answers it, and leaves the catalog standing over the table
after it. -/
lemma call (stands : Stands place? catalog table) (isOpen : catalog.store ≠ .closed)
    (supply : Supply) (call : Call) :
    (Catalog.backend supply catalog call).1 =
        (AppTable.backend supply (table, catalog.issued) call).1 ∧
      Stands place? (Catalog.backend supply catalog call).2
        (AppTable.backend supply (table, catalog.issued) call).2.1 := by
  obtain ⟨basis, rfl, holds⟩ := stands.exists_holds isOpen
  exact (holds.backend call).imp_right Holds.stands

/-- **Closing** a store over a file leaves the file at rest. -/
lemma close {place : Place} (stands : Stands (some place) catalog table) :
    Stands (some place) { catalog with files := catalog.close, store := .closed } table := by
  cases stands with
  | opened basis same holds =>
      cases basis with
      | file kept logs origin =>
          obtain ⟨content, ready, -, found, prepared⟩ := holds.close_file
          exact .closed kept logs content same rfl ready.toRests found prepared
      | shared => cases same
      | single => cases same
  | closed file logs content same store_eq rests found prepared =>
      have left : catalog.close = catalog.files := by
        unfold Catalog.close
        rw [store_eq]
      rw [left]
      exact .closed file logs content same rfl rests found prepared

/-- **Opening** a closed store again, by whoever may change its file, with a log or without. -/
lemma reopen {place : Place} (stands : Stands (some place) catalog table)
    (isClosed : catalog.store = .closed) {access : Access} {wal : Bool} {limit : Nat}
    {name : String} {file : DatabaseFile} {bearing : Bearing} {files : Files}
    (connected : catalog.files.connect access wal limit name = (.ok (.file file bearing), files))
    (same : file.place = place) (may : file.MayChange wal catalog.files) :
    Stands (some place) { catalog with files, store := .sql (.file file bearing) } table := by
  cases stands with
  | opened basis _ holds =>
      obtain ⟨_, ⟨_, store_eq, _⟩, _⟩ := holds
      rw [isClosed] at store_eq
      cases store_eq
  | closed kept logs content samePlace _ rests found prepared =>
      cases samePlace
      obtain ⟨ready, logged, -⟩ := Files.ready_of_connect rests connected same may
      have holds : Holds (.file file (file.use.logsWith wal logs) files)
          { catalog with files, store := .sql (.file file bearing) } (table, catalog.issued) :=
        ⟨content, ⟨_, rfl, bearing, rfl, ready, logged, .refl _⟩, found, prepared, rfl⟩
      rw [← same]
      exact holds.stands

/-- **Migrating** again succeeds and changes nothing. -/
lemma migrate (stands : Stands place? catalog table) (isOpen : catalog.store ≠ .closed)
    (now : Int) :
    ∃ catalog', catalog.migrate? now = some (.ok (), catalog') ∧ Stands place? catalog' table := by
  obtain ⟨basis, rfl, content, ⟨connection, store_eq, serves⟩, found, prepared, -⟩ :=
    stands.exists_holds isOpen
  obtain ⟨connection', files', migrated, serves'⟩ := serves.exists_of_migrate now
  rw [prepared.migrated_eq] at serves'
  have holds : Holds basis { catalog with files := files', store := .sql connection' }
      (table, catalog.issued) := ⟨content, ⟨_, rfl, serves'⟩, found, prepared, rfl⟩
  refine ⟨_, ?_, holds.stands⟩
  unfold migrate?
  rw [store_eq]
  dsimp only
  rw [migrated]

end Stands

end Catalog
end AppCatalog
