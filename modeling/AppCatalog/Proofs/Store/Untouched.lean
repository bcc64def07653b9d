import AppCatalog.Proofs.Database.Confinement
import AppCatalog.Proofs.Files.Making
import AppCatalog.Proofs.Store.Opening

/-!
# What opening a store leaves alone

A store is opened by making directories, connecting, migrating and counting, and each of these may
stop half way. Wherever it stops, only what belongs to the store was touched.

* **The database file** of a name (`Files.database?`) is told by its text.
* **A connection keeps to its file** (`Connection.Stays`) from the moment when it is opened
  (`Files.leaves_connect`), whatever it does, until it is closed.
* **What is touched** (`Files.Touches`) is no directory, and no file but for the database file, its
  companions, and a list of journals that a journal beside it names. What is new are directories
  above the path, the database file and its companions.
* **Opening a store touches only its own** (`Files.opening_touches_its_own`), whether it succeeds or
  not.
-/

namespace AppCatalog

variable {α : Type}

namespace Files

variable {origin files files' : Files} {name : String} {place : Place}

/-! ## Confined file systems -/

/-- The database file that a name stands for. -/
def database? (files : Files) (name : String) : Option DatabaseFile :=
  match DatabaseName.ofBytes .create (Utf8.encode name) with
  | .ok (.file path use) => some ⟨files.placeOf path, use⟩
  | _ => none

/-- The path of a file stands for the file to which it leads. -/
lemma database?_of_isFilePath (isPath : DatabaseName.IsFilePath name) (files : Files) :
    files.database? name = some ⟨files.placeOf (.ofText name), { access := .create }⟩ := by
  unfold database?
  rw [DatabaseName.ofBytes_of_isFilePath isPath]

/-- A name stands for the same file in the same working directory. -/
lemma database?_congr (home_eq : files'.home = files.home) (name : String) :
    files'.database? name = files.database? name := by
  unfold database?
  simp only [placeOf_congr home_eq]

/-- Whether a file system differs from an earlier one only in what belongs to the database file of a
name, and in nothing if the name stands for none. -/
def IsConfined (origin files : Files) (name : String) : Prop :=
  files = origin ∨ ∃ file, origin.database? name = some file ∧ file.Confined origin files

end Files

/-! ## Connections -/

namespace Connection

/-- Whether a connection to the database of a name has kept to the file that the name stands for. -/
def Stays (origin : Files) (name : String) : Connection → Files → Prop
  | file database bearing, files =>
    origin.database? name = some database ∧ origin.isDirectory database.place = false ∧
      database.Stays origin { bearing with files }
  | _, files => files = origin

namespace Stays

variable {origin files : Files} {name : String} {connection : Connection}

/-- **A command** keeps to the file, if it spares what is no database. -/
lemma perform (stays : connection.Stays origin name files) {command : Command α}
    (spares : command.onImage.Spares) :
    Stays origin name (connection.perform files command).2.1
      (connection.perform files command).2.2 := by
  cases connection with
  | file database bearing =>
      obtain ⟨named, free, stays⟩ := stays
      exact ⟨named, free, stays.perform free spares⟩
  | shared keeper key writable content =>
      unfold Connection.perform
      dsimp only
      split <;> exact stays
  | pool own => exact stays

/-- **Migrating** keeps to the file. -/
lemma migrate (stays : connection.Stays origin name files) (now : Int) :
    Stays origin name (connection.migrate files now).2.1 (connection.migrate files now).2.2 := by
  have spares : (Command.migrate now).onImage.Spares := Image.spares_migrate now
  cases connection with
  | pool own => exact stays
  | file database bearing => exact stays.perform spares
  | shared keeper key writable content => exact stays.perform spares

/-- **Preparing** keeps to the file. -/
lemma prepare (stays : connection.Stays origin name files) (now : Int) :
    Stays origin name (files.prepare now connection).2.1 (files.prepare now connection).2.2 := by
  have spares : Command.count.onImage.Spares := Image.spares_run _
  have migrated := stays.migrate now
  unfold Files.prepare
  generalize connection.migrate files now = outcome at migrated ⊢
  obtain ⟨cause | _, connection', files'⟩ := outcome
  · exact migrated
  · exact migrated.perform spares

/-- **Closing** confines the file system. -/
lemma close (stays : connection.Stays origin name files) :
    origin.IsConfined (connection.close files) name := by
  cases connection with
  | file database bearing =>
      obtain ⟨named, -, stays⟩ := stays
      exact .inr ⟨database, named, stays.close⟩
  | shared keeper key writable content => exact .inl stays
  | pool own => exact .inl stays

/-- A connection that has kept to its file confines the file system. -/
lemma isConfined (stays : connection.Stays origin name files) : origin.IsConfined files name := by
  cases connection with
  | file database bearing =>
      obtain ⟨named, -, stays⟩ := stays
      exact .inr ⟨database, named, stays.confined⟩
  | shared keeper key writable content => exact .inl stays
  | pool own => exact .inl stays

end Stays

end Connection

namespace Files

variable {origin files files' : Files} {name : String} {place : Place}

/-! ## Opening a connection -/

/-- **Providing a database file** keeps to it, and there is no directory in its place. -/
lemma stays_of_provide {file : DatabaseFile} {access : Access}
    (provided : origin.provide access file.place = .ok files) :
    origin.isDirectory file.place = false ∧ file.Stays origin { files } := by
  have stays (confined : file.Confined origin files) : file.Stays origin { files } :=
    ⟨confined, nofun⟩
  unfold provide at provided
  split at provided
  · next _ content there =>
    cases provided
    exact ⟨isDirectory_of_file there, stays (.refl file origin)⟩
  · cases provided
  · next nothing _ =>
    have free := isDirectory_of_at?_none nothing
    split_ifs at provided
    cases provided
    refine ⟨free, stays ((DatabaseFile.Confined.refl file origin).set_place free ?_)⟩
    intro bytes isForeign
    cases nothing.symm.trans isForeign.holds
  · cases provided

/-- A file that was opened is the one of its path, and was provided. -/
lemma eq_of_openDatabase {path : Path} {use : FileUse} {file : DatabaseFile}
    (opened : origin.openDatabase path use = .ok (file, files)) :
    file = ⟨origin.placeOf path, use⟩ ∧ origin.provide use.access file.place = .ok files := by
  unfold openDatabase at opened
  rcases placed : origin.databasePlace path with cause | place
  · rw [placed] at opened
    cases opened
  rw [placed] at opened
  simp only [bind, Except.bind] at opened
  split_ifs at opened
  rcases provided : origin.provide use.access place with cause | files' <;>
    rw [provided] at opened <;> cases opened
  exact ⟨congrArg (DatabaseFile.mk · use) (placeOf_eq placed), provided⟩

/-- What a step of opening a store leaves: it confines the file system if it fails, and if it does
not then the connection has kept to its file. -/
def Leaves (origin : Files) (name : String) : Except StoreError Connection × Files → Prop
  | (.error _, files) => origin.IsConfined files name
  | (.ok connection, files) => connection.Stays origin name files

/-- **Connecting to a database file** keeps to it. -/
lemma leaves_connectFile {path : Path} {use : FileUse}
    (named : DatabaseName.ofBytes .create (Utf8.encode name) = .ok (.file path use)) (wal : Bool) :
    origin.Leaves name (origin.connectFile path use wal) := by
  unfold connectFile
  rcases opened : origin.openDatabase path use with cause | ⟨file, files⟩
  · exact .inl rfl
  obtain ⟨file_eq, provided⟩ := eq_of_openDatabase opened
  have isNamed : origin.database? name = some file := by
    unfold database?
    rw [named, file_eq]
  obtain ⟨free, stays⟩ := stays_of_provide provided
  dsimp only
  split_ifs
  · have stays := stays.startLogging free
    unfold Connection.onFile
    rcases started : file.startLogging.runIn { files } with ⟨cause | _, session⟩ <;>
      rw [started] at stays
    · exact .inr ⟨file, isNamed, stays.close⟩
    · exact ⟨isNamed, free, stays⟩
  · exact ⟨isNamed, free, stays⟩

/-- **Connecting** keeps to the file of the name. -/
lemma leaves_connect (wal : Bool) (limit : Nat) (name : String) :
    origin.Leaves name (origin.connect .create wal limit name) := by
  unfold connect
  split_ifs
  · exact .inl rfl
  · rcases named : DatabaseName.ofBytes .create (Utf8.encode name) with
      cause | writable | ⟨keeper, key, writable⟩ | ⟨path, use⟩
    · exact .inl rfl
    · exact (rfl : origin = origin)
    · exact (rfl : origin = origin)
    · exact leaves_connectFile named wal

/-- **What follows the making of directories** is confined to the file of the name. -/
lemma isConfined_openSql (files : Files) (now : Int) (settings : DatabaseSettings) :
    (files.makeParents (.ofText settings.path)).2.IsConfined (files.openSql now settings).2
      settings.path := by
  unfold openSql
  obtain ⟨cause | _, origin⟩ := files.makeParents (.ofText settings.path)
  · exact .inl rfl
  have connected := origin.leaves_connect settings.enableWal settings.maxConnections.toNat
    settings.path
  dsimp only
  generalize origin.connect .create _ _ _ = outcome at connected ⊢
  obtain ⟨cause | connection, files'⟩ := outcome
  · exact connected
  have prepared := Connection.Stays.prepare connected now
  dsimp only
  generalize files'.prepare now connection = outcome at prepared ⊢
  obtain ⟨cause | _, connection', files''⟩ := outcome
  · exact prepared.close
  · exact prepared.isConfined

/-! ## What is touched -/

/-- Whether a file system differs from an earlier one only in what belongs to a store over the
database of a path. -/
structure Touches (files : Files) (path : String) (files' : Files) : Prop where
  /-- Directories stay. -/
  directories : ∀ place, files.isDirectory place = true → files'.isDirectory place = true
  /-- Files stay as they were, but for the database file, its companions, and a list of journals
  that is removed. -/
  contents : ∀ place content, files.at? place = some (.file content) →
    files'.at? place = some (.file content) ∨
      ∃ file, files.database? path = some file ∧
        (file.IsOwn place ∨ file.IsList files place ∧ files'.at? place = none)
  /-- The database file stays as it was if it is foreign. -/
  foreign : ∀ file bytes, files.database? path = some file → file.Foreign files bytes →
    files'.at? file.place = some (.file (.bytes bytes))
  /-- What is new is a directory above the path, the database file, or one of its companions. -/
  fresh : ∀ place, files.at? place = none → files'.at? place ≠ none →
    files'.isDirectory place = true ∧ files.IsAncestor (.ofText path) place ∨
      files'.isDirectory place = false ∧ ∃ file, files.database? path = some file ∧ file.IsOwn place

namespace IsConfined

variable (confined : origin.IsConfined files' name)

include confined

/-- Directories are all there, and no more than before. -/
lemma keeps : origin.Keeps files' := by
  rcases confined with rfl | ⟨file, -, confined⟩
  · exact .refl _
  · exact confined.keeps

/-- Places that do not belong to the file of the name are as they were. -/
lemma at?_eq_or (place : Place) :
    files'.at? place = origin.at? place ∨ ∃ file, origin.database? name = some file ∧
      (file.IsOwn place ∨ file.IsList origin place ∧ files'.at? place = none) := by
  rcases confined with rfl | ⟨file, named, confined⟩
  · exact .inl rfl
  by_cases isOwn : file.IsOwn place
  · exact .inr ⟨file, named, .inl isOwn⟩
  · exact (confined.elsewhere place isOwn).imp_right fun isList => ⟨file, named, .inr isList⟩

/-- A foreign file stays as it was. -/
lemma at?_of_foreign {file : DatabaseFile} {bytes : Bytes}
    (named : origin.database? name = some file) (isForeign : file.Foreign origin bytes) :
    files'.at? file.place = some (.file (.bytes bytes)) := by
  rcases confined with rfl | ⟨other, named', confined⟩
  · exact isForeign.holds
  · cases named.symm.trans named'
    exact (confined.foreign bytes isForeign).holds

end IsConfined

namespace Adds

variable {isNew : Place → Prop} {file : DatabaseFile}

/-- A foreign file is foreign where directories are added. -/
lemma foreign (adds : files.Adds origin isNew) {bytes : Bytes}
    (isForeign : file.Foreign files bytes) : file.Foreign origin bytes where
  holds := adds.at?_eq_of_some isForeign.holds
  counts := isForeign.counts
  illFormed := isForeign.illFormed
  cold := by
    unfold DatabaseFile.isHot
    rw [adds.bytesAt_eq]
    exact isForeign.cold
  level := by
    rw [adds.bytesAt_eq]
    exact isForeign.level

/-- A list of journals where directories are added was one before. -/
lemma isList (adds : files.Adds origin isNew) (isList : file.IsList origin place) :
    file.IsList files place := by
  obtain ⟨hot, name, named, place_eq⟩ := isList
  unfold DatabaseFile.isHot at hot
  rw [adds.bytesAt_eq] at hot named
  exact ⟨hot, name, named, place_eq.trans (target_congr adds.home_eq _)⟩

/-- **What is confined after directories were made above a path** touches no more than belongs to a
store over it. -/
lemma touches {path : String} (adds : files.Adds origin (files.IsAncestor (.ofText path)))
    (confined : origin.IsConfined files' path) : files.Touches path files' := by
  have database?_eq : origin.database? path = files.database? path :=
    database?_congr adds.home_eq path
  constructor
  · intro place isDirectory
    rw [confined.keeps.isDirectory_eq]
    exact decide_eq_true (adds.at?_eq_of_some (of_decide_eq_true isDirectory))
  · intro place content there
    rcases confined.at?_eq_or place with same | ⟨file, named, own⟩
    · left
      rw [same, adds.at?_eq_of_some there]
    · refine .inr ⟨file, database?_eq ▸ named, own.imp_right fun listed => ?_⟩
      exact ⟨adds.isList listed.1, listed.2⟩
  · intro file bytes named isForeign
    exact confined.at?_of_foreign (database?_eq ▸ named) (adds.foreign isForeign)
  · intro place nothing isThere
    rcases isDirectory : files'.isDirectory place with _ | _
    · right
      rcases confined.at?_eq_or place with same | ⟨file, named, isOwn | ⟨-, isGone⟩⟩
      · rcases adds.at?_eq_or place with unchanged | ⟨-, made, -⟩
        · rw [same, unchanged] at isThere
          exact absurd nothing isThere
        · exact absurd (same.trans made) (of_decide_eq_false isDirectory)
      · exact ⟨rfl, file, database?_eq ▸ named, isOwn⟩
      · exact absurd isGone isThere
    · left
      rw [confined.keeps.isDirectory_eq] at isDirectory
      rcases adds.at?_eq_or place with unchanged | ⟨-, -, isAncestor⟩
      · cases nothing.symm.trans (unchanged.symm.trans (of_decide_eq_true isDirectory))
      · exact ⟨rfl, isAncestor⟩

end Adds

/-- A name of private databases that is no locator stands for no file, and has nothing above it. -/
lemma database?_of_private (isPrivate : name = "" ∨ name = ":memory:") (files : Files) :
    files.database? name = none ∧ files.makeParents (.ofText name) = (.ok (), files) := by
  rcases isPrivate with rfl | rfl <;> exact ⟨rfl, rfl⟩

/-- **Opening a store touches only its own.** Only a store over a database touches anything, and
only if its path is not one of the two names of private databases. It touches what belongs to the
database file, which is the one to which the path leads if that is the path of a file. -/
theorem opening_touches_its_own (files : Files) (now : Int) (settings : DatabaseSettings) :
    files.Touches settings.path (files.openStore now settings).2 ∧
      (settings.backend ≠ "sqlite" → (files.openStore now settings).2 = files) ∧
      (settings.path = "" ∨ settings.path = ":memory:" →
        (files.openStore now settings).2 = files) ∧
      (DatabaseName.IsFilePath settings.path → files.database? settings.path =
        some ⟨files.placeOf (.ofText settings.path), { access := .create }⟩) := by
  have others (isOther : settings.backend ≠ "sqlite") :
      (files.openStore now settings).2 = files := by
    unfold openStore
    rw [if_neg isOther]
    split_ifs <;> rfl
  have adds := files.adds_makeParents (.ofText settings.path)
  have confined := files.isConfined_openSql now settings
  refine ⟨?_, others, fun isPrivate => ?_, fun isPath => database?_of_isFilePath isPath files⟩
  · by_cases isSqlite : settings.backend = "sqlite"
    · unfold openStore
      rw [if_pos isSqlite]
      exact adds.touches confined
    · rw [others isSqlite]
      exact (Adds.refl files).touches (.inl rfl)
  · by_cases isSqlite : settings.backend = "sqlite"
    · obtain ⟨noFile, made⟩ := database?_of_private isPrivate files
      unfold openStore
      rw [if_pos isSqlite]
      rw [made] at confined
      rcases confined with same | ⟨file, named, -⟩
      · exact same
      · cases noFile.symm.trans named
    · exact others isSqlite

/-! ## What else is touched -/

/-- A journal that was left behind by a change to a file that was empty before. It has no pages to
put back, and names a list of journals. -/
def leftJournal : Bytes :=
  Journal.magic.toList ++
    -- the number of pages, and the sizes of the file, of a sector and of a page
    [0, 0, 0, 0, 0, 0, 0, 0, 0, 0, 0, 0, 0, 0, 2, 0, 0, 0, 0x10, 0] ++ List.replicate 484 0 ++
    -- the name of the list, with its length and its checksum
    [0, 4, 0, 1] ++ Utf8.encode "list" ++ [0, 0, 0, 4, 0, 0, 1, 0xBC] ++ Journal.magic.toList

/-- A file that is no database, with a journal that was left behind, and the list that the journal
names. -/
def journaled : Files :=
  (((fresh []).set [Utf8.encode "x.db"] (.file (.bytes (Utf8.encode "not a database")))).set
    [Utf8.encode "x.db-journal"] (.file (.bytes leftJournal))).set
    [Utf8.encode "list"] (.file (.bytes (Utf8.encode "keep me")))

/-- **Opening a store touches more than its database file**: the list that a journal names is
removed. And it changes files that are no database: the change that a journal tells of is taken
back, and a file of one byte counts as empty. -/
theorem opening_touches_more :
    let settings : DatabaseSettings := { path := "x.db", enableWal := false }
    let tiny := (fresh []).set [Utf8.encode "x.db"] (.file (.bytes (Utf8.encode "x")))
    -- a file that is neither the database file nor a companion is gone
    (journaled.at? [Utf8.encode "list"] = some (.file (.bytes (Utf8.encode "keep me"))) ∧
      (∀ file, journaled.database? settings.path = some file →
        ¬ file.IsOwn [Utf8.encode "list"]) ∧
      (journaled.openStore 0 settings).2.at? [Utf8.encode "list"] = none) ∧
    -- a file in the place of the database that is neither empty nor a database is changed
    (journaled.at? [Utf8.encode "x.db"] = some (.file (.bytes (Utf8.encode "not a database"))) ∧
      (∃ cause, Layout.ofHeader (Utf8.encode "not a database").toArray = .error cause) ∧
      (journaled.openStore 0 settings).2.at? [Utf8.encode "x.db"] ≠
        some (.file (.bytes (Utf8.encode "not a database")))) ∧
    -- and so is another, beside which there is nothing
    (tiny.at? [Utf8.encode "x.db"] = some (.file (.bytes (Utf8.encode "x"))) ∧
      (∃ cause, Layout.ofHeader (Utf8.encode "x").toArray = .error cause) ∧
      (tiny.openStore 0 settings).2.at? [Utf8.encode "x.db"] ≠
        some (.file (.bytes (Utf8.encode "x")))) := by
  refine ⟨⟨rfl, ?notOwn, ?gone⟩, ⟨rfl, ⟨_, rfl⟩, ?takenBack⟩, rfl, ⟨_, rfl⟩, ?filled⟩
  case notOwn =>
    rintro file ⟨⟩
    unfold DatabaseFile.IsOwn
    decide +kernel
  case gone => decide +kernel
  case takenBack => decide +kernel
  case filled => decide +kernel

end Files
end AppCatalog
