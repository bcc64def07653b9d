import Mathlib.Tactic.Lemma
import AppCatalog.Proofs.Database.Creation
import AppCatalog.Proofs.Database.Outcome
import AppCatalog.Proofs.Store.Ledger

/-!
# A store over a database keeps its ledger

A store in memory is a list that is searched front to back. A database keeps rows by their numbers
and puts them in order for every question. This file ties both to the same ledger.

* **A recorded ledger** (`AppTable.Records`): the rows of a counted table are the uploads in order,
  each under an id from the supply.
* **A catalog over a database** (`Catalog.InDatabase`) holds such a table in a settled session.
* **It keeps its ledger** (`Catalog.inDatabase_keeps`) as long as there are row numbers left, if the
  supply never gives an id twice.
* **A new database** (`Catalog.IsNew`), however it was created, starts with an empty ledger
  (`Catalog.IsNew.inDatabase`).
* **A store to begin with** (`Catalog.HasRoom`), in memory or over a new database, keeps its ledger
  as far as it has room (`Catalog.HasRoom.exists_keeps`).
-/

namespace AppCatalog

variable {α : Type}

/-! ## The uploads in a table -/

/-- Whether the rows of a table are uploads in order, under ids of the stamps given out so far. -/
structure AppTable.Records (table : AppTable) (supply : Supply) (issued : Nat)
    (uploads : List Upload) : Prop where
  counted : table.Counted
  uploads_eq : table.apps.map App.upload = uploads
  issued_ids : ∀ row ∈ table.rows, ∃ n < issued, row.app.id = (supply n).id

namespace AppTable.Records

variable {table : AppTable} {supply : Supply} {issued : Nat} {uploads : List Upload}

/-- There is one row for each upload. -/
lemma length_rows (records : table.Records supply issued uploads) :
    table.rows.length = uploads.length := by
  rw [← records.uploads_eq]
  simp [apps]

/-- **The next upload is the last row** as long as there are row numbers left: its id was not
given before. -/
lemma append (records : table.Records supply issued uploads)
    (unique : Function.Injective fun n => (supply n).id)
    (room : (uploads.length : Int) < maxRowid) (upload : Upload) :
    ∃ table', table.append (upload.stamped (supply issued)) = .ok table' ∧
      table'.Records supply (issued + 1) (uploads ++ [upload]) := by
  have isNew : ∀ row ∈ table.rows, row.app.id ≠ (upload.stamped (supply issued)).id := by
    intro row among same
    obtain ⟨n, before, id_eq⟩ := records.issued_ids row among
    have : n = issued := unique (id_eq.symm.trans same)
    omega
  rw [← records.length_rows] at room
  obtain ⟨appended, counted⟩ := records.counted.append_eq room isNew
  refine ⟨_, appended, counted, ?_, ?_⟩
  · rw [apps_extended, List.map_append, records.uploads_eq]
    rfl
  · intro row among
    rw [rows_extended, List.mem_append, List.mem_singleton] at among
    rcases among with among | rfl
    · obtain ⟨n, before, id_eq⟩ := records.issued_ids row among
      exact ⟨n, Nat.lt_succ_of_lt before, id_eq⟩
    · exact ⟨issued, Nat.lt_succ_self _, rfl⟩

end AppTable.Records

/-! ## Catalogs over a database -/

namespace Catalog

variable {supply : Supply} {catalog : Catalog} {uploads : List Upload}

/-- Whether a catalog holds uploads, in their order, in the table of a database file. -/
def InDatabase (supply : Supply) (catalog : Catalog) (uploads : List Upload) : Prop :=
  ∃ file bearing logs content table,
    catalog.store = .sql (.file file bearing) ∧
      file.Settled { bearing with files := catalog.files } logs content ∧
      content.apps = some table ∧ table.Records supply catalog.issued uploads

/-- Over a settled session a command is answered as tables answer it, and leaves a settled session
that holds the tables after it. -/
lemma perform_of_settled (catalog : Catalog) {file : DatabaseFile} {bearing : Bearing} {logs : Bool}
    {content after : Database}
    (settled : file.Settled { bearing with files := catalog.files } logs content)
    {command : Command α} {answer : α} (answered : command.onTables content = .ok (answer, after)) :
    ∃ bearing' files', catalog.perform (.file file bearing) command =
        (.ok answer, { catalog with files := files', store := .sql (.file file bearing') }) ∧
      file.Settled { bearing' with files := files' } logs after := by
  obtain ⟨session, performed, settled'⟩ := settled.runIn_perform_ok answered
  refine ⟨session.toBearing, session.files, ?_, settled'⟩
  simp only [Catalog.perform, Connection.perform, Connection.onFile, performed]

/-- The listing of a catalog over a database. -/
lemma InDatabase.listAll (kept : InDatabase supply catalog uploads) :
    catalog.listAll.1 = .ok (uploads.map Upload.summary) ∧
      InDatabase supply catalog.listAll.2 uploads := by
  obtain ⟨file, bearing, logs, content, table, store_eq, settled, found, records⟩ := kept
  have answered : Command.listing.onTables content =
      .ok (table.apps.map App.summary, content) := by
    show (content.summaries).map (·, content) = _
    rw [Database.summaries, Database.appTable_eq found]
    rfl
  obtain ⟨bearing', files', performed, settled'⟩ := perform_of_settled _ settled answered
  unfold Catalog.listAll
  rw [store_eq]
  dsimp only
  rw [performed]
  refine ⟨?_, file, bearing', logs, content, table, rfl, settled', found, records⟩
  rw [← records.uploads_eq, List.map_map]
  rfl

/-- What is found in a catalog over a database. -/
lemma InDatabase.find (kept : InDatabase supply catalog uploads) (identifier : String) :
    (catalog.find identifier).1.map (Option.map App.upload) =
        .ok (uploads.find? (·.identifier = identifier)) ∧
      InDatabase supply (catalog.find identifier).2 uploads := by
  obtain ⟨file, bearing, logs, content, table, store_eq, settled, found, records⟩ := kept
  have answered : (Command.find identifier).onTables content =
      .ok (table.apps.find? (·.identifier = identifier), content) := by
    show (content.find identifier).map (·, content) = _
    rw [Database.find, Database.appTable_eq found]
    rfl
  obtain ⟨bearing', files', performed, settled'⟩ := perform_of_settled _ settled answered
  unfold Catalog.find
  rw [store_eq]
  dsimp only
  rw [performed]
  refine ⟨?_, file, bearing', logs, content, table, rfl, settled', found, records⟩
  rw [← records.uploads_eq, ← map_find?_upload]
  rfl

/-- **An upload to a catalog over a database** is stored behind all others, as long as there are
row numbers left and no id is given twice. -/
lemma InDatabase.insert (kept : InDatabase supply catalog uploads)
    (unique : Function.Injective fun n => (supply n).id)
    (room : (uploads.length : Int) < AppTable.maxRowid) (upload : Upload) :
    (catalog.insert supply upload).1 = .ok (upload.stamped (supply catalog.issued)) ∧
      InDatabase supply (catalog.insert supply upload).2 (uploads ++ [upload]) := by
  obtain ⟨file, bearing, logs, content, table, store_eq, settled, found, records⟩ := kept
  obtain ⟨table', appended, records'⟩ := records.append unique room upload
  have answered : (Command.insert (upload.stamped (supply catalog.issued))).onTables content =
      .ok (upload.stamped (supply catalog.issued), { content with apps := some table' }) := by
    show (content.insert _).map (upload.stamped (supply catalog.issued), ·) = _
    have inserted : content.insert (upload.stamped (supply catalog.issued)) =
        .ok { content with apps := some table' } := by
      unfold Database.insert
      rw [Database.appTable_eq found]
      show (do return { content with apps := some (← table.append _) } :
        Except SqlError Database) = _
      rw [appended]
      rfl
    rw [inserted]
    rfl
  obtain ⟨bearing', files', performed, settled'⟩ :=
    perform_of_settled ⟨catalog.files, .sql (.file file bearing), catalog.issued + 1⟩
      settled answered
  unfold Catalog.insert
  rw [store_eq]
  dsimp only
  rw [performed]
  exact ⟨rfl, file, bearing', logs, _, table', rfl, settled', rfl, records'⟩

/-- **A store over a database keeps its ledger** as long as there are row numbers left, if no id is
given twice. -/
lemma inDatabase_keeps (unique : Function.Injective fun n => (supply n).id) {limit : Nat}
    (numbers : (limit : Int) ≤ AppTable.maxRowid) :
    (backend supply).Keeps limit (InDatabase supply) := by
  have fits : ∀ (uploads : List Upload) (upload : Upload),
      (ledger uploads (.insert upload)).2.length ≤ limit →
        (uploads.length : Int) < AppTable.maxRowid := by
    intro uploads upload room
    have : (uploads ++ [upload]).length ≤ limit := room
    rw [List.length_append, List.length_singleton] at this
    omega
  constructor
  · intro catalog uploads kept call room
    cases call with
    | listAll =>
        have answer : catalog.listAll.1 = .ok (uploads.map Upload.summary) := kept.listAll.1
        exact congrArg (Except.map fun summaries => summaries) answer
    | find identifier =>
        refine (kept.find identifier).1.trans ?_
        show _ = Except.ok (((uploads.find? (·.identifier = identifier)).map
          (·.stamped .blank)).map App.upload)
        rw [Option.map_map]
        simp [Function.comp_def]
    | insert upload =>
        have answer := (kept.insert unique (fits uploads upload room) upload).1
        show (catalog.insert supply upload).1.map App.upload = .ok upload
        rw [answer]
        rfl
  · intro catalog uploads kept call room
    cases call with
    | listAll => exact kept.listAll.2
    | find identifier => exact (kept.find identifier).2
    | insert upload => exact (kept.insert unique (fits uploads upload room) upload).2

/-! ## New databases -/

/-- Whether a catalog is over a database that was just created and migrated in a file of which there
was nothing, under any name and with any settings. -/
def IsNew (catalog : Catalog) : Prop :=
  ∃ (files files' : Files) (wal : Bool) (limit : Nat) (name : String) (now : Int)
    (file : DatabaseFile) (bearing : Bearing) (connection : Connection),
    files.connect .create wal limit name = (.ok (.file file bearing), files') ∧
      files.IsBlankAt file.place ∧
      (Connection.file file bearing).migrate files' now = (.ok (), connection, catalog.files) ∧
      catalog.store = .sql connection

/-- **A new database starts with an empty ledger.** -/
lemma IsNew.inDatabase (isNew : catalog.IsNew) (supply : Supply) :
    InDatabase supply catalog [] := by
  obtain ⟨files, files', wal, limit, name, now, file, bearing, connection, connected, blank,
    migrated, store_eq⟩ := isNew
  obtain ⟨bearing', logs, rfl, settled⟩ := Files.settled_of_migrate connected blank migrated
  exact ⟨file, bearing', logs, _, _, store_eq, settled, rfl, AppTable.counted_of_rows_nil rfl, rfl,
    by simp⟩

/-- The stamps that are numbers. -/
def numbered : Supply := fun n => ⟨toString n, n⟩

/-- The catalog over a database that is created under a name and migrated, if that succeeds. -/
def created (files : Files) (name : String) (now : Int) : Catalog :=
  match files.connect .create true 1 name with
  | (.error _, files) => { files, store := .closed }
  | (.ok connection, files) =>
    let (_, connection, files) := connection.migrate files now
    { files, store := .sql connection }

/-- A database can be created in an empty directory. -/
lemma created_isNew : (created (.fresh []) "apps.db" 0).IsNew := by
  let file : DatabaseFile :=
    { place := [Utf8.encode "apps.db"],
      use := { access := .create, immutable := false, logging := .indexed, settles := true,
               model? := none } }
  exact ⟨.fresh [], _, true, 1, "apps.db", 0, file, {}, _, rfl, .inl rfl, rfl, rfl⟩

/-! ## Stores to begin with -/

/-- Whether a catalog is empty and has room for so many uploads. In memory there is always room; in
a new database there is as long as there are row numbers and no id is given twice. -/
def HasRoom (supply : Supply) (catalog : Catalog) (count : Nat) : Prop :=
  catalog.store = .memory [] ∨
    catalog.IsNew ∧ (Function.Injective fun n => (supply n).id) ∧ (count : Int) ≤ AppTable.maxRowid

/-- **An empty catalog keeps its ledger** as far as it has room. -/
lemma HasRoom.exists_keeps {count : Nat} (room : HasRoom supply catalog count) :
    ∃ kept, (backend supply).Keeps count kept ∧ kept catalog [] := by
  rcases room with inMemory | ⟨isNew, unique, numbers⟩
  · exact ⟨InMemory, inMemory_keeps supply count, [], inMemory, rfl⟩
  · exact ⟨InDatabase supply, inDatabase_keeps unique numbers, isNew.inDatabase supply⟩

/-- Over an empty catalog, plans that ignore stamps come to what they come to over the ledger. -/
lemma HasRoom.runAll_eq {plans : List (Plan α)}
    (room : HasRoom supply catalog (Plan.runAll ledger plans []).2.length)
    (ignore : ∀ plan ∈ plans, plan.IgnoresStamps) :
    (Plan.runAll (backend supply) plans catalog).1 = (Plan.runAll ledger plans []).1 := by
  obtain ⟨kept, keeps, tied⟩ := room.exists_keeps
  exact (keeps.runAll_eq ignore tied Nat.le.refl).1

end Catalog
end AppCatalog
