import AppCatalog.Proofs.Store.Outside
import AppCatalog.Proofs.Store.Recorded
import AppCatalog.Store.Service

/-!
# The views of a table

A store over a database lists its apps, counts them, finds one by its identifier and hands out its
source. These are views of one table, whoever else changes rows in it.

* **A history** (`Catalog.History`) starts with a new database that is migrated. Apps are created in
  it, rows are inserted and deleted from outside, and the store is closed, opened and migrated
  again. It keeps account of the created apps that were not deleted, in the order of their creation.
* **Every step** leaves a sound table in which these apps stand in their order
  (`History.keeps`).
* **The views** (`Catalog.ShowsTable`), **uploads** (`Catalog.TakesUploads`) and **edits from
  outside** (`Catalog.TakesEdits`) of such a table are told by its rows; so are those of every
  history (`History.views_agree`).
-/

namespace AppCatalog

namespace Catalog

/-! ## Histories -/

variable {supply : Supply} {place? : Option Place} {catalog catalog' : Catalog} {table : AppTable}
  {survivors : List App}

/-- Whether a catalog is over a database that was just opened and migrated, under any name and with
any settings; if it is in a file, there was nothing in it. -/
def IsMigrated (place? : Option Place) (catalog : Catalog) : Prop :=
  ∃ (files files₁ : Files) (wal : Bool) (limit : Nat) (name : String) (now : Int)
    (opened connection : Connection),
    files.connect .create wal limit name = (.ok opened, files₁) ∧
      (∀ file bearing, opened = .file file bearing → files.IsBlankAt file.place) ∧
      opened.migrate files₁ now = (.ok (), connection, catalog.files) ∧
      catalog.store = .sql connection ∧ connection.place? = place?

/-- What happens to a database, with the created apps that were not deleted, in the order of their
creation. A database in memory goes away with its store; what is opened then is new. -/
inductive History (supply : Supply) (place? : Option Place) : List App → Catalog → Prop
  /-- It is new. -/
  | start {catalog : Catalog} (migrated : IsMigrated place? catalog) :
    History supply place? [] catalog
  /-- The store is asked for something. -/
  | ask {survivors : List App} {catalog : Catalog}
    (history : History supply place? survivors catalog) (isOpen : catalog.store ≠ .closed)
    (call : Call) (asks : ∀ upload, call ≠ .insert upload) :
    History supply place? survivors (backend supply catalog call).2
  /-- An app is created, and there is a number behind all others. -/
  | create {survivors : List App} {catalog : Catalog} {table : AppTable}
    (history : History supply place? survivors catalog) (isOpen : catalog.store ≠ .closed)
    (found : catalog.tableIn place? = some table)
    (room : ∀ row ∈ table.rows, row.rowid < AppTable.maxRowid) (upload : Upload) :
    History supply place? (survivors ++ (catalog.insert supply upload).1.toOption.toList)
      (catalog.insert supply upload).2
  /-- A row is inserted from outside. -/
  | insertRow {survivors : List App} {catalog : Catalog} {name : String}
    (history : History supply place? survivors catalog) (isOpen : catalog.IsOpenTo place? name)
    (row : Row) : History supply place? survivors (catalog.edit name (.insertRow row)).2
  /-- A row is deleted from outside, and with it the app that it holds. -/
  | deleteRow {survivors : List App} {catalog : Catalog} {name : String} {table : AppTable}
    (history : History supply place? survivors catalog) (isOpen : catalog.IsOpenTo place? name)
    (found : catalog.tableIn place? = some table) (rowid : Int) :
    History supply place? (survivors.filter fun app => ¬ table.IsAt rowid app)
      (catalog.edit name (.deleteRow rowid)).2
  /-- The store is closed, if its database is in a file. -/
  | close {survivors : List App} {catalog : Catalog}
    (history : History supply place? survivors catalog) (inFile : place?.isSome) :
    History supply place? survivors { catalog with files := catalog.close, store := .closed }
  /-- The store is opened again under a name of its file, with any settings. -/
  | reopen {survivors : List App} {catalog : Catalog} {wal : Bool} {limit : Nat} {name : String}
    {file : DatabaseFile} {bearing : Bearing} {files : Files}
    (history : History supply place? survivors catalog) (isClosed : catalog.store = .closed)
    (connected : catalog.files.connect .create wal limit name = (.ok (.file file bearing), files))
    (same : some file.place = place?) (may : file.MayChange wal catalog.files) :
    History supply place? survivors { catalog with files, store := .sql (.file file bearing) }
  /-- The database is migrated again. -/
  | migrate {survivors : List App} {catalog catalog' : Catalog}
    {answer : Except StoreError Unit} (history : History supply place? survivors catalog)
    (now : Int) (migrated : catalog.migrate? now = some (answer, catalog')) :
    History supply place? survivors catalog'

/-! ## Every step -/

/-- Whether a catalog stands over a sound table in which apps stand in their order. -/
def Keeps (place? : Option Place) (survivors : List App) (catalog : Catalog) : Prop :=
  ∃ table, Stands place? catalog table ∧ table.Sound ∧ survivors.Sublist table.apps

/-- A new database stands over an empty table. -/
lemma IsMigrated.keeps (migrated : IsMigrated place? catalog) : Keeps place? [] catalog := by
  obtain ⟨files, files₁, wal, limit, name, now, opened, connection, connected, blank, migrated,
    store_eq, rfl⟩ := migrated
  obtain ⟨basis, serves⟩ := Basis.exists_serves_of_migrate connected blank migrated
  have holds : Holds basis catalog (⟨[], true⟩, catalog.issued) :=
    ⟨.fresh now, ⟨connection, store_eq, serves⟩, rfl, ⟨_, rfl, rfl⟩, rfl⟩
  rw [← serves.place?_eq]
  exact ⟨_, holds.stands, .of_rows_nil rfl, List.nil_sublist _⟩

/-- A table that is only asked stays as it is. -/
lemma backend_of_ask {issued : Nat} {call : Call} (asks : ∀ upload, call ≠ .insert upload) :
    (AppTable.backend supply (table, issued) call).2.1 = table := by
  cases call with
  | listAll => rfl
  | find identifier => rfl
  | insert upload => exact absurd rfl (asks upload)

/-- What an upload comes to on a table, for an app whose id is not in use. -/
lemma backend_insert_of_new (sound : table.Sound) {issued : Nat} {upload : Upload}
    (room : ∀ row ∈ table.rows, row.rowid < AppTable.maxRowid)
    (isNew : ∀ row ∈ table.rows, row.app.id ≠ (supply issued).id) :
    AppTable.backend supply (table, issued) (.insert upload) =
      (.ok (upload.stamped (supply issued)),
        (table.extended (upload.stamped (supply issued)), issued + 1)) := by
  have appended : table.append (upload.stamped (supply issued)) =
      .ok (table.extended (upload.stamped (supply issued))) := sound.ordered.append_eq room isNew
  unfold AppTable.backend
  dsimp only
  rw [appended]

/-- What an upload comes to on a table, for an app whose id is in use. -/
lemma exists_of_backend_insert_of_used {issued : Nat} (upload : Upload)
    (used : ∃ row ∈ table.rows, row.app.id = (supply issued).id) :
    ∃ cause, AppTable.backend supply (table, issued) (.insert upload) =
      (.error (.refused cause), (table, issued + 1)) := by
  have used : ∃ row ∈ table.rows, row.app.id = (upload.stamped (supply issued)).id := used
  obtain ⟨cause, refused⟩ := AppTable.exists_of_id_mem used
  refine ⟨cause, ?_⟩
  unfold AppTable.backend
  dsimp only
  rw [refused]

/-- **A row from outside** is refused exactly if its number or its id is in use, and then changes
nothing; otherwise it is placed. -/
lemma Stands.insertRow (stands : Stands place? catalog table) {name : String}
    (isOpen : catalog.IsOpenTo place? name) (row : Row) :
    table.InUse row ∧
        (∃ cause, (catalog.edit name (.insertRow row)).1 = .error (.refused cause)) ∧
        Stands place? (catalog.edit name (.insertRow row)).2 table ∨
      ¬ table.InUse row ∧ (catalog.edit name (.insertRow row)).1 = .ok () ∧
        Stands place? (catalog.edit name (.insertRow row)).2
          { table with rows := AppTable.place row table.rows } := by
  obtain ⟨answer_eq, stands'⟩ := stands.edit
    (fun _ found => Command.outcome_insertRow found row) isOpen
  by_cases used : table.InUse row
  · obtain ⟨cause, refused⟩ := AppTable.exists_of_inUse used
    rw [refused] at answer_eq stands'
    exact .inl ⟨used, ⟨cause, answer_eq⟩, stands'⟩
  · rw [AppTable.add_eq_ok used] at answer_eq stands'
    exact .inr ⟨used, answer_eq, stands'⟩

/-- **A deletion from outside** takes the row of its number, if there is one. -/
lemma Stands.deleteRow (stands : Stands place? catalog table) {name : String}
    (isOpen : catalog.IsOpenTo place? name) (rowid : Int) :
    (catalog.edit name (.deleteRow rowid)).1 = .ok () ∧
      Stands place? (catalog.edit name (.deleteRow rowid)).2 (table.delete rowid) :=
  stands.edit (fun _ found => Command.outcome_deleteRow found rowid) isOpen

/-- **Creating an app** adds it behind all others, unless its id is in use, as long as there is a
number behind all others. -/
lemma Stands.insert (stands : Stands place? catalog table) (sound : table.Sound)
    (isOpen : catalog.store ≠ .closed)
    (room : ∀ row ∈ table.rows, row.rowid < AppTable.maxRowid) (upload : Upload) :
    (∃ row ∈ table.rows, row.app.id = (supply catalog.issued).id) ∧
        (∃ cause, (catalog.insert supply upload).1 = .error (.refused cause)) ∧
        Stands place? (catalog.insert supply upload).2 table ∨
      (∀ row ∈ table.rows, row.app.id ≠ (supply catalog.issued).id) ∧
        (catalog.insert supply upload).1 = .ok (upload.stamped (supply catalog.issued)) ∧
        Stands place? (catalog.insert supply upload).2
          (table.extended (upload.stamped (supply catalog.issued))) := by
  obtain ⟨answer_eq, stands'⟩ := stands.call isOpen supply (.insert upload)
  by_cases used : ∃ row ∈ table.rows, row.app.id = (supply catalog.issued).id
  · obtain ⟨cause, refused⟩ := exists_of_backend_insert_of_used upload used
    rw [refused] at answer_eq stands'
    exact .inl ⟨used, ⟨cause, answer_eq⟩, stands'⟩
  · have isNew : ∀ row ∈ table.rows, row.app.id ≠ (supply catalog.issued).id :=
      fun row among same => used ⟨row, among, same⟩
    rw [backend_insert_of_new sound room isNew] at answer_eq stands'
    exact .inr ⟨isNew, answer_eq, stands'⟩

/-- Only an open store is migrated. -/
lemma isOpen_of_migrate? {now : Int} {answer : Except StoreError Unit}
    (migrated : catalog.migrate? now = some (answer, catalog')) : catalog.store ≠ .closed := by
  intro isClosed
  unfold migrate? at migrated
  rw [isClosed] at migrated
  cases migrated

/-- **Every history** leaves a sound table in which the created apps that were not deleted stand in
the order of their creation. -/
lemma History.keeps (history : History supply place? survivors catalog) :
    Keeps place? survivors catalog := by
  induction history with
  | start migrated => exact migrated.keeps
  | ask history isOpen call asks ih =>
      obtain ⟨table, stands, sound, listed⟩ := ih
      have stands' := (stands.call isOpen supply call).2
      rw [backend_of_ask asks] at stands'
      exact ⟨table, stands', sound, listed⟩
  | create history isOpen found room upload ih =>
      obtain ⟨table, stands, sound, listed⟩ := ih
      obtain rfl := Option.some.inj (found.symm.trans stands.tableIn_eq)
      rcases stands.insert sound isOpen room upload with
        ⟨-, ⟨cause, answer_eq⟩, stands'⟩ | ⟨isNew, answer_eq, stands'⟩
      · rw [answer_eq]
        refine ⟨_, stands', sound, ?_⟩
        show (_ ++ []).Sublist _
        rwa [List.append_nil]
      · rw [answer_eq]
        refine ⟨_, stands', sound.extended room isNew, ?_⟩
        rw [AppTable.apps_extended]
        exact listed.append (.refl _)
  | insertRow history isOpen row ih =>
      obtain ⟨table, stands, sound, listed⟩ := ih
      rcases stands.insertRow isOpen row with ⟨-, -, stands'⟩ | ⟨isNew, -, stands'⟩
      · exact ⟨table, stands', sound, listed⟩
      · exact ⟨_, stands', sound.add isNew, AppTable.sublist_add listed row⟩
  | deleteRow history isOpen found rowid ih =>
      obtain ⟨table, stands, sound, listed⟩ := ih
      cases stands.tableIn_eq.symm.trans found
      exact ⟨_, (stands.deleteRow isOpen rowid).2, sound.delete rowid,
        sound.sublist_delete listed rowid⟩
  | close history inFile ih =>
      obtain ⟨table, stands, sound, listed⟩ := ih
      obtain ⟨place, rfl⟩ := Option.isSome_iff_exists.1 inFile
      exact ⟨table, stands.close, sound, listed⟩
  | reopen history isClosed connected same may ih =>
      obtain ⟨table, stands, sound, listed⟩ := ih
      cases same
      exact ⟨table, stands.reopen isClosed connected rfl may, sound, listed⟩
  | migrate history now migrated ih =>
      obtain ⟨table, stands, sound, listed⟩ := ih
      obtain ⟨catalog', migrated', stands'⟩ := stands.migrate (isOpen_of_migrate? migrated) now
      cases migrated'.symm.trans migrated
      exact ⟨table, stands', sound, listed⟩

/-! ## The views -/

/-- Whether a store shows a table: it lists the rows in their order, counts what it lists, and finds
for every identifier the row of the least number, which is the first that is listed. -/
structure ShowsTable (supply : Supply) (catalog : Catalog) (table : AppTable) : Prop where
  listed : catalog.listAll.1 = .ok (table.apps.map App.summary)
  counted : ∃ catalog',
    catalog.count? = some (.ok (table.apps.map App.summary).length, catalog')
  found : ∀ identifier, ∃ app?, (catalog.find identifier).1 = .ok app? ∧
    table.IsLeast identifier app? ∧
    (app? = none ↔ ∀ entry ∈ table.apps.map App.summary, entry.identifier ≠ identifier) ∧
    app?.map App.summary = (table.apps.map App.summary).find? (·.identifier = identifier) ∧
    (identifier ≠ "" → ((Service.getSource identifier).run (backend supply) catalog).1 =
      .ok (app?.map App.source))

/-- Whether uploads to a store are taken as rows of a table: as long as there is a number behind all
others, an app is put behind all that are there, unless its id is in use. -/
def TakesUploads (supply : Supply) (place? : Option Place) (catalog : Catalog)
    (table : AppTable) : Prop :=
  (∀ row ∈ table.rows, row.rowid < AppTable.maxRowid) → ∀ upload,
    let app := upload.stamped (supply catalog.issued)
    (∃ row ∈ table.rows, row.app.id = app.id) ∧
        (∃ cause, (catalog.insert supply upload).1 = .error cause) ∧
        (catalog.insert supply upload).2.tableIn place? = some table ∨
      (∀ row ∈ table.rows, row.app.id ≠ app.id) ∧
        (catalog.insert supply upload).1 = .ok app ∧
        ∃ after, (catalog.insert supply upload).2.tableIn place? = some after ∧
          after.apps = table.apps ++ [app]

/-- Whether edits from outside are taken as edits of a table: a row is refused exactly if its number
or its id is in use, and then nothing changes; a deletion takes the row of its number. -/
structure TakesEdits (place? : Option Place) (catalog : Catalog) (table : AppTable) : Prop where
  refused_iff : ∀ name, catalog.IsOpenTo place? name → ∀ row,
    (∃ cause, (catalog.edit name (.insertRow row)).1 = .error cause) ↔ table.InUse row
  unchanged : ∀ name, catalog.IsOpenTo place? name → ∀ row, table.InUse row →
    (catalog.edit name (.insertRow row)).2.tableIn place? = some table
  placed : ∀ name, catalog.IsOpenTo place? name → ∀ row, ¬ table.InUse row →
    (catalog.edit name (.insertRow row)).2.tableIn place? =
      some { table with rows := AppTable.place row table.rows }
  deleted : ∀ name, catalog.IsOpenTo place? name → ∀ rowid,
    (catalog.edit name (.deleteRow rowid)).2.tableIn place? = some (table.delete rowid)

/-- A catalog shows the table over which it stands. -/
lemma Stands.showsTable (stands : Stands place? catalog table) (ordered : table.Ordered)
    (isOpen : catalog.store ≠ .closed) : ShowsTable supply catalog table where
  listed := (stands.call isOpen supply .listAll).1
  counted := by
    obtain ⟨basis, -, holds⟩ := stands.exists_holds isOpen
    obtain ⟨catalog', counted, -⟩ := holds.count
    have length_eq : (table.apps.map App.summary).length = table.rows.length := by
      unfold AppTable.apps
      rw [List.length_map, List.length_map]
    rw [length_eq]
    exact ⟨catalog', counted⟩
  found identifier := by
    have found : (catalog.find identifier).1 =
        .ok (table.apps.find? (·.identifier = identifier)) :=
      (stands.call isOpen supply (.find identifier)).1
    refine ⟨_, found, ordered.isLeast_find? identifier, ?_, ?_, fun named => ?_⟩
    · simp [App.summary]
    · rw [List.find?_map]
      rfl
    · unfold Service.getSource
      rw [if_neg named]
      show (catalog.find identifier).1.map (Option.map App.source) = _
      rw [found]
      rfl

/-- Uploads are taken as rows of the table over which a catalog stands. -/
lemma Stands.takesUploads (stands : Stands place? catalog table) (sound : table.Sound)
    (isOpen : catalog.store ≠ .closed) : TakesUploads supply place? catalog table := by
  intro room upload
  rcases stands.insert sound isOpen room upload with
    ⟨used, ⟨cause, answer_eq⟩, stands'⟩ | ⟨isNew, answer_eq, stands'⟩
  · exact .inl ⟨used, ⟨_, answer_eq⟩, stands'.tableIn_eq⟩
  · exact .inr ⟨isNew, answer_eq, _, stands'.tableIn_eq, AppTable.apps_extended _ _⟩

/-- Edits from outside are taken as edits of the table over which a catalog stands. -/
lemma Stands.takesEdits (stands : Stands place? catalog table) :
    TakesEdits place? catalog table where
  refused_iff name isOpen row := by
    rcases stands.insertRow isOpen row with ⟨used, ⟨cause, answer_eq⟩, -⟩ | ⟨isNew, answer_eq, -⟩
    · exact ⟨fun _ => used, fun _ => ⟨_, answer_eq⟩⟩
    · rw [answer_eq]
      exact ⟨nofun, fun used => absurd used isNew⟩
  unchanged name isOpen row used := by
    rcases stands.insertRow isOpen row with ⟨-, -, stands'⟩ | ⟨isNew, -, -⟩
    · exact stands'.tableIn_eq
    · exact absurd used isNew
  placed name isOpen row isNew := by
    rcases stands.insertRow isOpen row with ⟨used, -, -⟩ | ⟨-, -, stands'⟩
    · exact absurd used isNew
    · exact stands'.tableIn_eq
  deleted name isOpen rowid := (stands.deleteRow isOpen rowid).2.tableIn_eq

/-- **The views of a store agree in every history.** Its rows have increasing numbers and different
ids, the created apps that were not deleted are listed in the order of their creation, edits from
outside and uploads are taken as rows of the table, and the listing, the count, the apps that are
found and their sources are views of it. -/
theorem History.views_agree (history : History supply place? survivors catalog) :
    ∃ table, catalog.tableIn place? = some table ∧ table.Sound ∧ survivors.Sublist table.apps ∧
      TakesEdits place? catalog table ∧
      (catalog.store ≠ .closed →
        ShowsTable supply catalog table ∧ TakesUploads supply place? catalog table) := by
  obtain ⟨table, stands, sound, listed⟩ := history.keeps
  exact ⟨table, stands.tableIn_eq, sound, listed, stands.takesEdits, fun isOpen =>
    ⟨stands.showsTable sound.ordered isOpen, stands.takesUploads sound isOpen⟩⟩

/-! ## A database in an empty directory -/

/-- A database that is created in an empty directory is new. -/
lemma created_isMigrated :
    IsMigrated (some [Utf8.encode "apps.db"]) (created (.fresh []) "apps.db" 0) := by
  refine ⟨.fresh [], _, true, 1, "apps.db", 0, _, _, rfl, ?_, rfl, rfl, rfl⟩
  rintro file bearing isFile
  cases isFile
  exact .inl rfl

/-- An app is created in a new database, another program puts a row ahead of it, and another one
takes the row again. -/
theorem views_agree_of_outsider :
    let row : Row := ⟨-3, ⟨"other", "b", "", "", "its source", 0⟩⟩
    let stored := ((created (.fresh []) "apps.db" 0).insert numbered ⟨"a", "", "", ""⟩).2
    let edited := (stored.edit "apps.db" (.insertRow row)).2
    let catalog := (edited.edit "./apps.db" (.deleteRow (-3))).2
    ∃ table, catalog.tableIn (some [Utf8.encode "apps.db"]) = some table ∧ table.Sound ∧
      [App.mk "0" "a" "" "" "" 0].Sublist table.apps ∧
      TakesEdits (some [Utf8.encode "apps.db"]) catalog table ∧
      (catalog.store ≠ .closed →
        ShowsTable numbered catalog table ∧
          TakesUploads numbered (some [Utf8.encode "apps.db"]) catalog table) := by
  intro row stored edited catalog
  have history :
      History numbered (some [Utf8.encode "apps.db"]) [⟨"0", "a", "", "", "", 0⟩] stored :=
    .create (.start created_isMigrated) nofun rfl nofun ⟨"a", "", "", ""⟩
  have opens : stored.IsOpenTo (some [Utf8.encode "apps.db"]) "apps.db" :=
    ⟨.file ⟨[Utf8.encode "apps.db"], { access := .write }⟩ {}, _, rfl, rfl,
      ⟨nofun, rfl, nofun⟩, fun _ => rfl⟩
  have opens' : edited.IsOpenTo (some [Utf8.encode "apps.db"]) "./apps.db" :=
    ⟨.file ⟨[Utf8.encode "apps.db"], { access := .write }⟩ {}, _, rfl, rfl,
      ⟨nofun, rfl, nofun⟩, fun _ => rfl⟩
  exact ((history.insertRow opens row).deleteRow opens' rfl (-3)).views_agree

end Catalog
end AppCatalog
