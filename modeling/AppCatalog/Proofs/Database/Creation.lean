import Mathlib.Tactic.Lemma
import Mathlib.Tactic.SplitIfs
import AppCatalog.Proofs.Database.Session

/-!
# Creating a database

A database file starts as nothing, or as an empty file. This file follows it until it holds the
schema.

* **An unwritten session** (`DatabaseFile.Unwritten`) has a file that counts as empty; what is left
  beside it belongs to an older file. Entering it settles the leftovers or fails
  (`Unwritten.of_runIn_enter`).
* **A turned session** (`DatabaseFile.Turned`) has a file that is to be written ahead to a log that
  nobody has opened yet; the first command opens it (`Turned.of_runIn_enter`).
* **The first change** (`Unwritten.settled_of_perform`, `Turned.settled_of_perform`): if a command
  that changes a blank database succeeds, it leaves a settled session.
* **Migrating a new file** (`Files.settled_of_migrate`): whatever lies beside the file and whatever
  the settings say, once a file of which there was nothing is open and migrated, its session is
  settled and its tables are those of the schema, without rows.
-/

namespace AppCatalog

variable {α : Type}

namespace DatabaseFile

variable {file : DatabaseFile} {session session' : Session} {logs : Bool} {content : Database}

/-! ## Files that count as empty -/

/-- Whether the file of a session counts as empty, and no log is open. -/
structure Unwritten (file : DatabaseFile) (session : Session) : Prop where
  below : file.place ≠ []
  closed : session.logOpen = false
  short : ∃ bytes, session.files.at? file.place = some (.file (.bytes bytes)) ∧ bytes.length ≤ 1

namespace Unwritten

/-- An unwritten file counts as empty. -/
lemma isEmpty (unwritten : file.Unwritten session) : file.isEmpty session.files = true := by
  obtain ⟨bytes, there, short⟩ := unwritten.short
  unfold DatabaseFile.isEmpty
  rw [there]
  exact decide_eq_true short

/-- An unwritten file holds a blank database. -/
lemma holding_eq (unwritten : file.Unwritten session) :
    file.holding session.files = .ok (.tables false .blank) := by
  obtain ⟨bytes, there, short⟩ := unwritten.short
  unfold holding
  rw [there]
  show Except.ok
    (if bytes.length ≤ 1 then Holding.tables false .blank else .pages bytes.toArray) = _
  rw [if_pos short]

/-- What is removed beside a file leaves it unwritten. -/
lemma remove (unwritten : file.Unwritten session) {place : Place} (apart : place ≠ file.place) :
    file.Unwritten { session with files := session.files.remove place } where
  below := unwritten.below
  closed := unwritten.closed
  short := by
    obtain ⟨bytes, there, short⟩ := unwritten.short
    exact ⟨bytes, by rw [Files.at?_remove_of_ne _ (Ne.symm apart), there], short⟩

/-- Looking at an unwritten file finds a blank database. -/
lemma runIn_look (unwritten : file.Unwritten session) :
    file.look.runIn session = (.ok (.tables false .blank), session) :=
  DatabaseFile.runIn_look unwritten.holding_eq (runIn_followLog_of_closed unwritten.closed) nofun

/-- A journal beside an unwritten file is deleted or left alone. -/
lemma of_runIn_settleJournal (unwritten : file.Unwritten session)
    (success : file.settleJournal.runIn session = (.ok (), session')) :
    file.Unwritten session' := by
  unfold settleJournal at success
  rw [Session.runIn_get_bind] at success
  simp only [unwritten.isEmpty, if_true] at success
  split_ifs at success
  · cases success
    exact unwritten.remove file.journal_ne_place
  · cases success
    exact unwritten
  · cases success
    exact unwritten

/-- A log beside an unwritten file is deleted. -/
lemma of_runIn_settleLog (unwritten : file.Unwritten session)
    (success : file.settleLog.runIn session = (.ok (), session')) :
    file.Unwritten session' ∧ session'.files.isOccupied file.log = false := by
  unfold settleLog at success
  rw [Session.runIn_get_bind] at success
  simp only [unwritten.isEmpty, Bool.not_true, Bool.false_eq_true, if_false] at success
  split_ifs at success with occupied isDirectory
  · cases success
  · cases success
    refine ⟨unwritten.remove file.log_ne_place, Files.isOccupied_of_at?_none ?_⟩
    exact Files.at?_remove_self _ file.log_ne_nil
  · cases success
    exact ⟨unwritten, by simpa using occupied⟩

/-- **Entering an unwritten file** finds a blank database, leaves the file unwritten, and leaves no
log beside it unless nothing beside it is ever looked at. -/
lemma of_runIn_enter (unwritten : file.Unwritten session) {holding : Holding}
    (success : file.enter.runIn session = (.ok holding, session')) :
    holding = .tables false .blank ∧ file.Unwritten session' ∧
      (file.use.immutable = false → session'.files.isOccupied file.log = false) := by
  rw [runIn_enter, unwritten.closed, Bool.or_false] at success
  split_ifs at success with immutable
  · rw [unwritten.runIn_look] at success
    cases success
    exact ⟨rfl, unwritten, fun mutable => absurd immutable (by simp [mutable])⟩
  · obtain ⟨_, session₁, settledJournal, success⟩ := Session.exists_of_runIn_bind success
    have unwritten₁ := unwritten.of_runIn_settleJournal settledJournal
    obtain ⟨_, session₂, settledLog, success⟩ := Session.exists_of_runIn_bind success
    obtain ⟨unwritten₂, noLog⟩ := unwritten₁.of_runIn_settleLog settledLog
    rw [unwritten₂.runIn_look] at success
    cases success
    exact ⟨rfl, unwritten₂, fun _ => noLog⟩

end Unwritten

/-! ## The first change -/

/-- A change of tables that succeeds had the right to write and met no obstacle, and put the tables
after it in the file. -/
lemma of_performOnTables {command : Command α} {answer answer' : α} {after : Database}
    (answered : command.onTables content = .ok (answer, after)) (changed : after ≠ content)
    (success : (file.performOnTables command logs content).runIn session =
      (.ok answer', session')) :
    file.mayWrite session = true ∧ file.obstacle? session = none ∧
      session' = file.stored session (.database logs after) := by
  unfold performOnTables at success
  rw [Session.runIn_get_bind] at success
  rcases writable : file.mayWrite session with _ | _
  · -- without the right to write the command is refused
    have refused : command.run false content = .error .readOnly := by
      unfold Command.run
      rw [answered]
      simp [changed]
    rw [writable, refused, Session.runIn_bind, Session.runIn_take_error] at success
    cases success
  · rw [writable, Command.run_true, answered, Session.runIn_take_bind] at success
    have writes : (command.rewrites || decide (after ≠ content)) = true := by simp [changed]
    simp only [writes, if_true] at success
    rcases clear : file.obstacle? session with _ | cause
    · rw [clear] at success
      cases success
      exact ⟨rfl, rfl, rfl⟩
    · rw [clear] at success
      cases success

/-- The first change of an unwritten file is put in it once nothing is left beside it. -/
lemma Unwritten.exists_of_perform (unwritten : file.Unwritten session) {command : Command α}
    {answer answer' : α} {after : Database}
    (answered : command.onTables .blank = .ok (answer, after)) (changed : after ≠ .blank)
    (success : (file.perform command).runIn session = (.ok answer', session')) :
    ∃ between, file.Unwritten between ∧ between.files.isOccupied file.log = false ∧
      file.mayWrite between = true ∧ file.obstacle? between = none ∧
      session' = file.stored between (.database false after) := by
  unfold perform at success
  obtain ⟨holding, between, entered, success⟩ := Session.exists_of_runIn_bind success
  obtain ⟨rfl, unwritten, noLog⟩ := unwritten.of_runIn_enter entered
  obtain ⟨writable, clear, session_eq⟩ := of_performOnTables answered changed success
  exact ⟨between, unwritten, noLog (immutable_of_mayWrite writable), writable, clear, session_eq⟩

/-- **The first change of an unwritten file** leaves a settled session without a log. -/
lemma Unwritten.settled_of_perform (unwritten : file.Unwritten session) {command : Command α}
    {answer answer' : α} {after : Database}
    (answered : command.onTables .blank = .ok (answer, after)) (changed : after ≠ .blank)
    (success : (file.perform command).runIn session = (.ok answer', session')) :
    file.Settled session' false after := by
  obtain ⟨between, unwritten, noLog, writable, clear, rfl⟩ :=
    unwritten.exists_of_perform answered changed success
  exact {
    below := unwritten.below
    holds := at?_stored_place unwritten.below _
    writable := by rw [mayWrite_stored, writable]
    clear := obstacle?_stored clear _
    logged := nofun
    noLog := by
      rw [Files.isOccupied_congr (at?_stored_of_ne _ file.log_ne_place file.log_ne_journal _)]
      exact noLog
    noJournal := fun closed =>
      Files.isOccupied_of_at?_none (at?_stored_journal between closed _) }

/-! ## Turning to a log -/

/-- Whether a file is to be written ahead to a log that is not open yet, and nothing is left beside
it. -/
structure Turned (file : DatabaseFile) (session : Session) (content : Database) : Prop where
  below : file.place ≠ []
  closed : session.logOpen = false
  holds : session.files.at? file.place = some (.file (.database true content))
  writable : file.mayWrite session = true
  clear : file.obstacle? session = none
  noLog : session.files.isOccupied file.log = false
  noJournal : session.files.isOccupied file.journal = false

/-- An unwritten file is turned to a log, or stays unwritten where there can be none. -/
lemma Unwritten.of_runIn_startLogging (unwritten : file.Unwritten session)
    (success : file.startLogging.runIn session = (.ok (), session')) :
    (file.use.immutable = true ∨ file.use.logging = .unsupported) ∧ file.Unwritten session' ∨
      file.Turned session' .blank := by
  unfold startLogging at success
  obtain ⟨holding, session₁, entered, success⟩ := Session.exists_of_runIn_bind success
  obtain ⟨rfl, unwritten₁, noLog⟩ := unwritten.of_runIn_enter entered
  rw [Session.runIn_get_bind] at success
  dsimp only at success
  split_ifs at success with done writable
  · cases success
    rw [unwritten₁.closed, Bool.false_or, Bool.or_eq_true, decide_eq_true_eq] at done
    exact .inl ⟨done, unwritten₁⟩
  · rcases clear : file.obstacle? session₁ with _ | cause
    · rw [clear] at success
      cases success
      refine .inr {
        below := unwritten.below
        closed := unwritten₁.closed
        holds := at?_stored_place unwritten.below _
        writable := (mayWrite_stored session₁ _).trans writable
        clear := obstacle?_stored clear _
        noLog := ?_
        noJournal :=
          Files.isOccupied_of_at?_none
            (at?_stored_journal session₁ unwritten₁.closed _) }
      exact (Files.isOccupied_congr (at?_stored_of_ne session₁ file.log_ne_place
        file.log_ne_journal _)).trans (noLog (immutable_of_mayWrite writable))
    · rw [clear] at success
      cases success
  · cases success

end DatabaseFile

namespace Files

/-- Making sure of a file occupies no place. -/
lemma isOccupied_ensure {files : Files} {place other : Place} (below : place ≠ [])
    (free : files.isOccupied other = false) : (files.ensure place).isOccupied other = false := by
  unfold ensure
  split_ifs
  · exact free
  · by_cases same : other = place
    · unfold isOccupied
      rw [same, at?_set_self _ below]
    · rw [isOccupied_congr (at?_set_of_ne _ same _)]
      exact free

end Files

namespace DatabaseFile

variable {file : DatabaseFile} {session session' : Session} {content : Database}

/-- An opened log is an empty file, if there was nothing in its place. -/
lemma of_runIn_openLog (noLog : session.files.isOccupied file.log = false)
    (success : file.openLog.runIn session = (.ok (), session')) :
    session'.logOpen = true ∧ session'.files.isOccupied file.log = false := by
  unfold openLog at success
  rw [Session.runIn_get_bind] at success
  dsimp only at success
  have afterLog := Files.isOccupied_ensure file.log_ne_nil noLog
  by_cases unsupported : file.use.logging = .unsupported
  · rw [if_pos unsupported] at success
    cases success
  · rw [if_neg unsupported] at success
    by_cases room : session.files.canHold file.log = true
    · rw [if_pos room] at success
      split_ifs at success
      · cases success
        exact ⟨rfl, Files.isOccupied_ensure (Place.beside_ne_nil _ _) afterLog⟩
      · cases success
        exact ⟨rfl, afterLog⟩
    · rw [if_neg room] at success
      cases success

/-- Following an open log that is empty changes nothing. -/
lemma eq_of_runIn_followLog (noLog : session.files.isOccupied file.log = false)
    (success : file.followLog.runIn session = (.ok (), session')) : session' = session := by
  unfold followLog recover at success
  rw [Session.runIn_get_bind] at success
  split_ifs at success
  · cases success
  · rw [Session.runIn_get_bind] at success
    simp only [noLog, Bool.false_and, Bool.false_eq_true, if_false] at success
    cases success
    rfl
  · cases success
    rfl

/-- **Entering a turned file** finds its tables and opens the log. -/
lemma Turned.of_runIn_enter (turned : file.Turned session content) {holding : Holding}
    (success : file.enter.runIn session = (.ok holding, session')) :
    holding = .tables true content ∧ session'.logOpen = true ∧
      session'.files.isOccupied file.log = false := by
  have mutable := immutable_of_mayWrite turned.writable
  have found : file.holding session.files = .ok (.tables true content) := by
    unfold DatabaseFile.holding
    rw [turned.holds]
  rw [runIn_enter, mutable, turned.closed] at success
  simp only [Bool.or_false, Bool.false_eq_true, if_false] at success
  rw [Session.runIn_bind_of_ok (runIn_settleJournal turned.noJournal),
    Session.runIn_bind_of_ok (runIn_settleLog turned.noLog)] at success
  unfold look at success
  rw [Session.runIn_bind_of_ok (runIn_followLog_of_closed turned.closed), Session.runIn_get_bind,
    found, Session.runIn_take_bind] at success
  have success : (Session.take (.ok true) >>= _ : Session.Act Holding).runIn session = _ := success
  rw [Session.runIn_take_bind, Session.runIn_get_bind, mutable, turned.closed] at success
  simp only [Bool.not_false, Bool.and_self, if_true] at success
  obtain ⟨_, session₁, opened, success⟩ := Session.exists_of_runIn_bind success
  obtain ⟨logOpen, noLog⟩ := of_runIn_openLog turned.noLog opened
  obtain ⟨_, session₂, followed, success⟩ := Session.exists_of_runIn_bind success
  have same := eq_of_runIn_followLog noLog followed
  cases success
  exact ⟨rfl, by rw [same, logOpen], by rw [same, noLog]⟩

/-- **The first change of a turned file** leaves a settled session with a log. -/
lemma Turned.settled_of_perform (turned : file.Turned session content) {α : Type}
    {command : Command α} {answer answer' : α} {after : Database}
    (answered : command.onTables content = .ok (answer, after)) (changed : after ≠ content)
    (success : (file.perform command).runIn session = (.ok answer', session')) :
    file.Settled session' true after := by
  unfold perform at success
  obtain ⟨holding, session₁, entered, success⟩ := Session.exists_of_runIn_bind success
  obtain ⟨rfl, logOpen, noLog⟩ := turned.of_runIn_enter entered
  obtain ⟨writable, clear, rfl⟩ := of_performOnTables answered changed success
  exact {
    below := turned.below
    holds := at?_stored_place turned.below _
    writable := (mayWrite_stored _ _).trans writable
    clear := obstacle?_stored clear _
    logged := fun _ => logOpen
    noLog :=
      (Files.isOccupied_congr
        (at?_stored_of_ne _ file.log_ne_place file.log_ne_journal _)).trans noLog
    noJournal := fun closed => by
      rw [logOpen_stored, logOpen] at closed
      cases closed }

end DatabaseFile

/-! ## New databases -/

namespace Files

/-- Whether nothing was ever written at a place: there is nothing, or an empty file. -/
def IsBlankAt (files : Files) (place : Place) : Prop :=
  files.at? place = none ∨ files.at? place = some (.file (.bytes []))

/-- What is provided at a blank place is an empty file. -/
lemma at?_of_provide {files files' : Files} {access : Access} {place : Place} (below : place ≠ [])
    (blank : files.IsBlankAt place) (success : files.provide access place = .ok files') :
    files'.at? place = some (.file (.bytes [])) := by
  unfold provide at success
  rcases blank with nothing | empty
  · rw [nothing] at success
    rcases parent : files.at? place.dropLast with _ | _ | content
    · rw [parent] at success
      cases success
    · rw [parent] at success
      dsimp only at success
      split_ifs at success
      cases success
      exact at?_set_self _ below _
    · rw [parent] at success
      cases success
  · rw [empty] at success
    cases success
    exact empty

/-- A file that was opened is at a place below the root, where it was provided. -/
lemma of_openDatabase {files files' : Files} {path : Path} {use : FileUse} {file : DatabaseFile}
    (success : files.openDatabase path use = .ok (file, files')) :
    file.place ≠ [] ∧ files.provide use.access file.place = .ok files' := by
  unfold openDatabase databasePlace at success
  rcases followed : files.follow [] (files.start path ++ path.names) with cause | place
  · rw [followed] at success
    cases success
  · rw [followed] at success
    simp only [bind, Except.bind, pure, Except.pure] at success
    split_ifs at success with fits absent
    · dsimp only at success
      rcases provided : files.provide use.access place with cause | files₁
      · rw [provided] at success
        cases success
      · rw [provided] at success
        cases success
        exact ⟨fits.1, provided⟩

/-- **A new file** that a connection was opened to is unwritten, or turned to a log if that was
asked for. -/
lemma of_connectFile {files files' : Files} {path : Path} {use : FileUse} {wal : Bool}
    {file : DatabaseFile} {bearing : Bearing}
    (success : files.connectFile path use wal = (.ok (.file file bearing), files'))
    (blank : files.IsBlankAt file.place) :
    (wal = true → file.use.immutable = true ∨ file.use.logging = .unsupported) ∧
        file.Unwritten { bearing with files := files' } ∨
      file.Turned { bearing with files := files' } .blank := by
  unfold connectFile at success
  rcases opened : files.openDatabase path use with cause | ⟨file₁, files₁⟩
  · rw [opened] at success
    cases success
  · rw [opened] at success
    obtain ⟨below, provided⟩ := of_openDatabase opened
    have unwritten : file₁ = file → file.Unwritten { files := files₁ } := by
      rintro rfl
      exact ⟨below, rfl, [], at?_of_provide below blank provided, Nat.zero_le _⟩
    dsimp only at success
    split_ifs at success
    · rcases started : file₁.startLogging.runIn { files := files₁ } with ⟨cause | answer, session⟩
      · simp only [Connection.onFile, started] at success
        cases success
      · simp only [Connection.onFile, started] at success
        cases success
        exact ((unwritten rfl).of_runIn_startLogging started).imp_left
          (And.imp_left fun done _ => done)
    · next noLog =>
      cases success
      exact .inl ⟨fun wal => absurd wal noLog, unwritten rfl⟩

/-- A connection to a database file is opened to the file that its name stands for. -/
lemma exists_of_connect {files files' : Files} {access : Access} {wal : Bool} {limit : Nat}
    {name : String} {file : DatabaseFile} {bearing : Bearing}
    (success : files.connect access wal limit name = (.ok (.file file bearing), files')) :
    ∃ path use, files.connectFile path use wal = (.ok (.file file bearing), files') := by
  unfold connect at success
  split_ifs at success
  · cases success
  · split at success
    · cases success
    · cases success
    · cases success
    · exact ⟨_, _, success⟩

end Files

namespace Database

/-- The tables of the schema, without rows. -/
def fresh (now : Int) : Database where
  migrations := some [⟨schemaName, now⟩]
  apps := some ⟨[], true⟩

/-- Migrating a blank database makes the tables of the schema. -/
lemma migrate_blank (now : Int) : blank.migrate now = .ok (fresh now) := rfl

end Database

/-- **Migrating a new file.** Once a file of which there was nothing is open and migrated, its
session is settled and holds the tables of the schema without rows, whatever lay beside the file
and however it is used. -/
lemma Files.settled_of_migrate {files files₁ files₂ : Files} {access : Access} {wal : Bool}
    {limit : Nat} {name : String} {now : Int} {file : DatabaseFile} {bearing : Bearing}
    {connection : Connection}
    (connected : files.connect access wal limit name = (.ok (.file file bearing), files₁))
    (blank : files.IsBlankAt file.place)
    (migrated : (Connection.file file bearing).migrate files₁ now = (.ok (), connection, files₂)) :
    ∃ bearing' logs, connection = .file file bearing' ∧
      file.Settled { bearing' with files := files₂ } logs (.fresh now) := by
  obtain ⟨path, use, connected⟩ := Files.exists_of_connect connected
  have start := Files.of_connectFile connected blank
  have answered : (Command.migrate now).onTables .blank = .ok ((), .fresh now) := by
    show (Database.migrate .blank now).map ((), ·) = _
    rw [Database.migrate_blank]
    rfl
  have changed : Database.fresh now ≠ .blank := nofun
  rcases performed :
      (file.perform (Command.migrate now)).runIn { bearing with files := files₁ } with
    ⟨answer, session⟩
  have migrated : (answer, Connection.file file session.toBearing, session.files) =
      (.ok (), connection, files₂) := by
    rw [← migrated]
    simp only [Connection.migrate, Connection.perform, Connection.onFile, performed]
  cases migrated
  rcases start with ⟨-, unwritten⟩ | turned
  · exact ⟨session.toBearing, false, rfl, unwritten.settled_of_perform answered changed performed⟩
  · exact ⟨session.toBearing, true, rfl, turned.settled_of_perform answered changed performed⟩

end AppCatalog
