import AppCatalog.Proofs.Database.Creation
import AppCatalog.Proofs.Files.Keeping

/-!
# Resting databases

Between commands, and between programs, a database file that holds tables rests: nothing is left
beside it that the next connection would have to settle, and the next one finds room for what it
needs beside the file.

* **A resting file** (`DatabaseFile.Rests`) holds tables, with no journal, an empty log and room for
  a journal. That is said of its place, whoever uses it.
* **A ready file** (`DatabaseFile.Ready`) is at rest and used by somebody who may write, and who can
  follow the log if there is one.
* **Every command** (`Ready.runIn_perform_ok`, `Ready.runIn_perform_error`) on a ready file is
  answered as tables answer it, and leaves the file ready with the tables after it.
* **Opening and closing** (`Files.ready_of_connect`, `Ready.close`) leave the file ready with the
  same tables. Opening may turn it to a log.
* **A new file is ready** once it was opened and migrated (`Files.ready_of_migrate`).
-/

namespace AppCatalog

variable {α : Type}

/-! ## Uses of a file -/

namespace FileUse

variable {use : FileUse} {wal logs : Bool}

/-- Whether a use of a file allows it to be written, with a log or without. -/
structure Suits (use : FileUse) (logs : Bool) : Prop where
  writes : use.access ≠ .read
  isMutable : use.immutable = false
  follows : logs = true → use.logging ≠ .unsupported

/-- Whether changes are written ahead to a log once that was asked for or not. -/
def logsWith (use : FileUse) (wal logs : Bool) : Bool :=
  logs || (wal && use.logging ≠ .unsupported)

/-- Where no log is asked for there is one if there was. -/
@[simp] lemma logsWith_false (use : FileUse) (logs : Bool) : use.logsWith false logs = logs :=
  Bool.or_false _

/-- A log stays. -/
@[simp] lemma logsWith_true (use : FileUse) (wal : Bool) : use.logsWith wal true = true := rfl

/-- A use suits a log where there can be one. -/
lemma Suits.logsWith (suits : use.Suits logs) (wal : Bool) : use.Suits (use.logsWith wal logs) where
  writes := suits.writes
  isMutable := suits.isMutable
  follows asked := by
    unfold FileUse.logsWith at asked
    rw [Bool.or_eq_true, Bool.and_eq_true, decide_eq_true_eq] at asked
    exact asked.elim suits.follows And.right

end FileUse

namespace DatabaseFile

variable {file file' : DatabaseFile} {files files' : Files} {session session' : Session}
  {logs : Bool} {content after : Database}

/-! ## Files at rest -/

/-- Whether a file holds tables, with nothing left beside it and room for a journal. -/
structure Rests (file : DatabaseFile) (files : Files) (logs : Bool) (content : Database) :
    Prop where
  below : file.place ≠ []
  holds : files.at? file.place = some (.file (.database logs content))
  noLog : files.isOccupied file.log = false
  noJournal : files.isOccupied file.journal = false
  room : files.canHold file.journal = true

/-- Whether a file is at rest and may be written by who uses it: with the right to write and, if
there is a log, with an index that can be written. -/
structure Ready (file : DatabaseFile) (files : Files) (logs : Bool) (content : Database) : Prop
    extends file.Rests files logs content where
  suits : file.use.Suits logs
  usable : logs = true → file.indexBlocked files = false

namespace Rests

/-- A file is at rest whoever uses it. -/
lemma of_place (rests : file.Rests files logs content) (same : file'.place = file.place) :
    file'.Rests files logs content := by
  obtain ⟨place, use⟩ := file'
  cases same
  exact ⟨rests.below, rests.holds, rests.noLog, rests.noJournal, rests.room⟩

/-- The tables of a resting file are found. -/
lemma holding_eq (rests : file.Rests files logs content) :
    file.holding files = .ok (.tables logs content) := by
  unfold holding
  rw [rests.holds]

/-- There is room for a log where there is room for a journal. -/
lemma canHold_log (rests : file.Rests files logs content) : files.canHold file.log = true := by
  have room := rests.room
  unfold Files.canHold at room ⊢
  rw [Files.isDirectory_of_isOccupied rests.noLog]
  simp only [Bool.and_eq_true, Bool.not_eq_true', Bool.not_false, and_true] at room ⊢
  have long := room.1
  unfold nameTooLong journal Place.beside at long
  unfold nameTooLong log Place.beside
  rw [List.getLast?_concat] at long ⊢
  simp only [Option.getD_some, List.length_append, decide_eq_false_iff_not, Nat.not_lt] at long ⊢
  have journalEnding : (Utf8.encode "-journal").length = 8 := rfl
  have logEnding : (Utf8.encode "-wal").length = 4 := rfl
  omega

/-- A file at rest stays so if nothing changes in its place and in that of its journal, and the log
stays free. -/
lemma of_at?_eq (rests : file.Rests files logs content)
    (samePlace : files'.at? file.place = files.at? file.place)
    (sameJournal : files'.at? file.journal = files.at? file.journal)
    (noLog : files'.isOccupied file.log = false) : file.Rests files' logs content where
  below := rests.below
  holds := samePlace.trans rests.holds
  noLog := noLog
  noJournal := (Files.isOccupied_congr sameJournal).trans rests.noJournal
  room := by
    have room := rests.room
    unfold Files.canHold at room ⊢
    rwa [Files.isDirectory_congr sameJournal]

end Rests

/-- A log is apart from its index. -/
lemma log_ne_index : file.log ≠ file.index := Place.beside_ne _ (by decide)

/-- The index of a log is not at the root. -/
lemma index_ne_nil : file.index ≠ [] := Place.beside_ne_nil _ _

/-! ## Entering -/

/-- The session after the log was opened. -/
def logged (file : DatabaseFile) (session : Session) : Session :=
  let files := session.files.ensure file.log
  { session with
    files := if file.use.logging = .indexed then files.ensure file.index else files
    logOpen := true }

/-- Opening the log creates it and its index. -/
lemma Rests.runIn_openLog (rests : file.Rests session.files logs content)
    (supported : file.use.logging ≠ .unsupported) :
    file.openLog.runIn session = (.ok (), file.logged session) := by
  unfold openLog logged
  rw [Session.runIn_get_bind]
  dsimp only
  rw [if_neg supported, rests.canHold_log, if_pos rfl]
  split_ifs <;> rfl

/-- Opening the log changes nothing elsewhere. -/
lemma at?_logged_of_ne {place : Place} (notLog : place ≠ file.log) (notIndex : place ≠ file.index) :
    (file.logged session).files.at? place = session.files.at? place := by
  unfold logged
  dsimp only
  split_ifs
  · exact (Files.at?_ensure_of_ne notIndex).trans (Files.at?_ensure_of_ne notLog)
  · exact Files.at?_ensure_of_ne notLog

/-- Opening the log keeps directories. -/
lemma keeps_logged (file : DatabaseFile) (session : Session) :
    session.files.Keeps (file.logged session).files := by
  unfold logged
  dsimp only
  split_ifs
  · exact (Files.Keeps.ensure _ _).trans (.ensure _ _)
  · exact .ensure _ _

/-- A file stays at rest when its log is opened. -/
lemma Rests.logged (rests : file.Rests session.files logs content) :
    file.Rests (file.logged session).files logs content := by
  refine rests.of_at?_eq ?_ ?_ ?_
  · exact at?_logged_of_ne (Ne.symm file.log_ne_place) (Ne.symm file.index_ne_place)
  · exact at?_logged_of_ne (Ne.symm file.log_ne_journal) (Ne.symm file.index_ne_journal)
  · have made := Files.isOccupied_ensure file.log_ne_nil rests.noLog
    unfold DatabaseFile.logged
    dsimp only
    split_ifs
    · exact Files.isOccupied_ensure index_ne_nil made
    · exact made

/-- **Looking at a file at rest** finds its tables, and opens the log if there is to be one. -/
lemma Rests.runIn_look (rests : file.Rests session.files logs content)
    (suits : file.use.Suits logs) :
    file.look.runIn session =
      (.ok (.tables logs content),
        if logs && !session.logOpen then file.logged session else session) := by
  have followed := runIn_followLog_of_empty rests.noLog
  by_cases opens : logs = true ∧ session.logOpen = false
  · obtain ⟨rfl, closed⟩ := opens
    unfold look
    rw [Session.runIn_bind_of_ok followed, Session.runIn_get_bind, rests.holding_eq,
      Session.runIn_take_bind]
    show (Session.take (.ok true) >>= _ : Session.Act Holding).runIn session = _
    rw [Session.runIn_take_bind, Session.runIn_get_bind, closed, suits.isMutable]
    simp only [Bool.not_false, Bool.and_self, if_true]
    rw [Session.runIn_bind_of_ok (rests.runIn_openLog (suits.follows rfl)),
      Session.runIn_bind_of_ok (runIn_followLog_of_empty rests.logged.noLog)]
    rfl
  · have stays : (logs && !session.logOpen) = false := by
      rcases logs with _ | _
      · rfl
      · rw [Bool.true_and, Bool.not_eq_false']
        exact Bool.of_not_eq_false fun closed => opens ⟨rfl, closed⟩
    rw [stays, DatabaseFile.runIn_look rests.holding_eq followed]
    · rfl
    · intro isLogged
      rw [isLogged, Bool.true_and, Bool.not_eq_false'] at stays
      exact stays

/-- **Entering a file at rest** finds its tables, and opens the log if there is to be one. -/
lemma Rests.runIn_enter (rests : file.Rests session.files logs content)
    (suits : file.use.Suits logs) :
    file.enter.runIn session =
      (.ok (.tables logs content),
        if logs && !session.logOpen then file.logged session else session) := by
  rw [DatabaseFile.runIn_enter]
  by_cases skipped : (file.use.immutable || session.logOpen) = true
  · rw [if_pos skipped, rests.runIn_look suits]
  · rw [if_neg skipped, Session.runIn_bind_of_ok (runIn_settleJournal rests.noJournal),
      Session.runIn_bind_of_ok (runIn_settleLog rests.noLog), rests.runIn_look suits]

/-- Entering a file that writes ahead to a log is refused where there can be none. -/
lemma Rests.runIn_enter_unsupported (rests : file.Rests session.files true content)
    (closed : session.logOpen = false) (isMutable : file.use.immutable = false)
    (unsupported : file.use.logging = .unsupported) :
    file.enter.runIn session = (.error (.refused .cannotOpen), session) := by
  -- the log would have to be opened
  have refused : file.openLog.runIn session = (.error (.refused .cannotOpen), session) := by
    unfold openLog
    rw [Session.runIn_get_bind, if_pos unsupported]
    rfl
  rw [DatabaseFile.runIn_enter, isMutable, closed, Bool.or_self, if_neg Bool.false_ne_true,
    Session.runIn_bind_of_ok (runIn_settleJournal rests.noJournal),
    Session.runIn_bind_of_ok (runIn_settleLog rests.noLog)]
  unfold look
  rw [Session.runIn_bind_of_ok (runIn_followLog_of_closed closed), Session.runIn_get_bind,
    rests.holding_eq, Session.runIn_take_bind]
  show (Session.take (.ok true) >>= _ : Session.Act Holding).runIn session = _
  rw [Session.runIn_take_bind, Session.runIn_get_bind, isMutable, closed]
  simp only [Bool.not_false, Bool.and_self, if_true]
  rw [Session.runIn_bind, refused]

/-! ## Files that are ready -/

namespace Ready

/-- A file at rest is ready where directories are as they were when it was ready. -/
lemma of_keeps (ready : file.Ready files logs content) (keeps : files.Keeps files')
    (rests : file.Rests files' logs after) : file.Ready files' logs after where
  toRests := rests
  suits := ready.suits
  usable isLogged := (keeps.indexBlocked_eq file).trans (ready.usable isLogged)

/-- A file stays ready when its log is opened. -/
lemma logged (ready : file.Ready session.files logs content) :
    file.Ready (file.logged session).files logs content :=
  ready.of_keeps (file.keeps_logged session) ready.toRests.logged

/-- The session of a ready file, once entered, is settled. -/
lemma settled (ready : file.Ready session.files logs content) (opened : session.logOpen = logs) :
    file.Settled session logs content where
  below := ready.below
  holds := ready.holds
  writable := by
    have usable : (logs && file.indexBlocked session.files) = false := by
      rcases logs with _ | _
      · rfl
      · rw [ready.usable rfl, Bool.and_false]
    unfold mayWrite
    rw [opened, ready.suits.isMutable, usable]
    simpa using ready.suits.writes
  clear := by
    unfold obstacle?
    rw [ready.room, Bool.or_true]
    rfl
  logged isLogged := opened.trans isLogged
  noLog := ready.noLog
  noJournal _ := ready.noJournal

end Ready

/-- The journal goes away when tables change, or stays as it is. -/
lemma at?_stored_journal_cases (session : Session) (content : Content) :
    (file.stored session content).files.at? file.journal = none ∨
      (file.stored session content).files.at? file.journal = session.files.at? file.journal := by
  rcases opened : session.logOpen with _ | _
  · exact .inl (at?_stored_journal session opened content)
  · refine .inr ?_
    unfold DatabaseFile.stored
    rw [opened]
    exact Files.at?_set_of_ne _ file.journal_ne_place _

/-- A file stays at rest when its tables change. -/
lemma Rests.stored (rests : file.Rests session.files logs content) (logs' : Bool)
    (after : Database) :
    file.Rests (file.stored session (.database logs' after)).files logs' after where
  below := rests.below
  holds := at?_stored_place rests.below _
  noLog := by
    rw [Files.isOccupied_congr (at?_stored_of_ne _ file.log_ne_place file.log_ne_journal _)]
    exact rests.noLog
  noJournal := by
    rcases at?_stored_journal_cases session (.database logs' after) with gone | same
    · exact Files.isOccupied_of_at?_none gone
    · exact (Files.isOccupied_congr same).trans rests.noJournal
  room := by
    have room := rests.room
    unfold Files.canHold at room ⊢
    rcases at?_stored_journal_cases session (.database logs' after) with gone | same
    · rw [Files.isDirectory_of_at?_none gone]
      rw [Bool.and_eq_true] at room
      rw [room.1]
      rfl
    · rwa [Files.isDirectory_congr same]

/-- What is put in a file at rest keeps directories. -/
lemma Rests.keeps_stored (rests : file.Rests session.files logs content) (stored : Content) :
    session.files.Keeps (file.stored session stored).files := by
  have written := Files.Keeps.set (Files.isDirectory_of_file rests.holds) stored
  unfold DatabaseFile.stored
  dsimp only
  split_ifs
  · exact written
  · refine written.trans (.remove ?_)
    rw [Files.isDirectory_congr (Files.at?_set_of_ne _ file.journal_ne_place _)]
    exact Files.isDirectory_of_isOccupied rests.noJournal

/-- A file stays ready when its tables change. -/
lemma Ready.stored (ready : file.Ready session.files logs content) (after : Database) :
    file.Ready (file.stored session (.database logs after)).files logs after :=
  ready.of_keeps (ready.keeps_stored _) (ready.toRests.stored logs after)

/-! ## Commands -/

/-- What a command leaves behind on a ready file: the file ready, with its tables and the log as
they are to be, and directories where they were. -/
structure Leaves (file : DatabaseFile) (session session' : Session) (logs : Bool)
    (content : Database) : Prop where
  ready : file.Ready session'.files logs content
  opened : session'.logOpen = logs
  keeps : session.files.Keeps session'.files

namespace Ready

/-- **Entering a ready file** finds its tables and leaves it ready. -/
lemma exists_of_enter (ready : file.Ready session.files logs content)
    (logged : session.logOpen = true → logs = true) :
    ∃ session', file.enter.runIn session = (.ok (.tables logs content), session') ∧
      file.Leaves session session' logs content := by
  refine ⟨_, ready.toRests.runIn_enter ready.suits, ?_⟩
  by_cases opens : (logs && !session.logOpen) = true
  · rw [if_pos opens]
    rw [Bool.and_eq_true] at opens
    exact ⟨ready.logged, opens.1.symm, file.keeps_logged session⟩
  · rw [if_neg opens]
    refine ⟨ready, ?_, .refl _⟩
    rcases isOpen : session.logOpen with _ | _
    · rcases logs with _ | _
      · rfl
      · rw [isOpen] at opens
        exact absurd rfl opens
    · exact (logged isOpen).symm

/-- A command on a ready file is done as on the file once entered. -/
lemma exists_of_perform (ready : file.Ready session.files logs content)
    (logged : session.logOpen = true → logs = true) (command : Command α) :
    ∃ session', file.Leaves session session' logs content ∧
      (file.perform command).runIn session = (file.perform command).runIn session' := by
  obtain ⟨session', entered, leaves⟩ := ready.exists_of_enter logged
  refine ⟨session', leaves, ?_⟩
  unfold perform
  rw [Session.runIn_bind_of_ok entered,
    Session.runIn_bind_of_ok (leaves.ready.settled leaves.opened).runIn_enter]

/-- **A command that tables refuse is refused**, and the file stays ready as it is. -/
lemma runIn_perform_error (ready : file.Ready session.files logs content)
    (logged : session.logOpen = true → logs = true) {command : Command α} {cause : SqlError}
    (refused : command.onTables content = .error cause) :
    ∃ session', (file.perform command).runIn session = (.error (.refused cause), session') ∧
      file.Leaves session session' logs content := by
  obtain ⟨session', leaves, same⟩ := ready.exists_of_perform logged command
  refine ⟨session', ?_, leaves⟩
  rw [same, (leaves.ready.settled leaves.opened).runIn_perform_error refused]

/-- **A command that tables answer is answered like that**, and the file is ready with the tables
after it. -/
lemma runIn_perform_ok (ready : file.Ready session.files logs content)
    (logged : session.logOpen = true → logs = true) {command : Command α} {answer : α}
    (answered : command.onTables content = .ok (answer, after)) :
    ∃ session', (file.perform command).runIn session = (.ok answer, session') ∧
      file.Leaves session session' logs after := by
  obtain ⟨between, leaves, same⟩ := ready.exists_of_perform logged command
  refine ⟨_, same.trans ((leaves.ready.settled leaves.opened).runIn_perform_eq answered), ?_⟩
  split_ifs with writes
  · exact ⟨leaves.ready.stored after, leaves.opened,
      leaves.keeps.trans (leaves.ready.keeps_stored _)⟩
  · have unchanged : after = content := by
      simp only [Bool.or_eq_true, decide_eq_true_eq, not_or] at writes
      exact Decidable.of_not_not writes.2
    rw [unchanged]
    exact leaves

end Ready

/-! ## Closing and opening -/

namespace Ready

/-- A ready file stays ready without its log. -/
lemma remove_log (ready : file.Ready files logs content) :
    file.Ready (files.remove file.log) logs content := by
  refine ready.of_keeps (.remove (Files.isDirectory_of_isOccupied ready.noLog))
    (ready.toRests.of_at?_eq ?_ ?_ ?_)
  · exact Files.at?_remove_of_ne _ (Ne.symm file.log_ne_place)
  · exact Files.at?_remove_of_ne _ (Ne.symm file.log_ne_journal)
  · exact Files.isOccupied_of_at?_none (Files.at?_remove_self _ file.log_ne_nil)

/-- A ready file stays ready without the index of its log. -/
lemma remove_index (ready : file.Ready files logs content)
    (free : files.isDirectory file.index = false) :
    file.Ready (files.remove file.index) logs content := by
  refine ready.of_keeps (.remove free) (ready.toRests.of_at?_eq ?_ ?_ ?_)
  · exact Files.at?_remove_of_ne _ (Ne.symm file.index_ne_place)
  · exact Files.at?_remove_of_ne _ (Ne.symm file.index_ne_journal)
  · exact (Files.isOccupied_congr (Files.at?_remove_of_ne _ file.log_ne_index)).trans ready.noLog

/-- **Closing a ready file** leaves it ready as it is, and keeps directories. -/
lemma close (ready : file.Ready session.files logs content) :
    file.Ready (file.close session) logs content ∧
      session.files.Keeps (file.close session) := by
  have noLog := Files.isDirectory_of_isOccupied ready.noLog
  unfold DatabaseFile.close
  dsimp only
  split_ifs with leaves indexed
  · simp only [Bool.and_eq_true, Bool.not_eq_true'] at leaves
    have free := leaves.1.2
    unfold indexBlocked at free
    rw [indexed, decide_eq_true rfl, Bool.true_and] at free
    have free : (session.files.remove file.log).isDirectory file.index = false :=
      ((Files.Keeps.remove noLog).isDirectory_eq _).trans free
    exact ⟨ready.remove_log.remove_index free, (Files.Keeps.remove noLog).trans (.remove free)⟩
  · exact ⟨ready.remove_log, .remove noLog⟩
  · exact ⟨ready, .refl _⟩

/-- Closing a connection to a ready file leaves it ready as it is, and keeps directories. -/
lemma close_connection (ready : file.Ready files logs content) (bearing : Bearing) :
    file.Ready ((Connection.file file bearing).close files) logs content ∧
      files.Keeps ((Connection.file file bearing).close files) := by
  have ready : file.Ready ({ bearing with files } : Session).files logs content := ready
  exact ready.close

/-- **A ready file can be turned to a log**, unless a directory is in the way. -/
lemma runIn_startLogging (ready : file.Ready session.files logs content)
    (logged : session.logOpen = true → logs = true)
    (free : file.use.logsWith true logs = true → file.indexBlocked session.files = false) :
    ∃ session', file.startLogging.runIn session = (.ok (), session') ∧
      file.Ready session'.files (file.use.logsWith true logs) content ∧
      (session'.logOpen = true → file.use.logsWith true logs = true) ∧
      session.files.Keeps session'.files := by
  obtain ⟨session', entered, leaves⟩ := ready.exists_of_enter logged
  unfold startLogging
  rw [Session.runIn_bind_of_ok entered, Session.runIn_get_bind]
  dsimp only
  rw [leaves.opened, leaves.ready.suits.isMutable, Bool.or_false]
  by_cases isDone : (logs || decide (file.use.logging = .unsupported)) = true
  · have same : file.use.logsWith true logs = logs := by
      unfold FileUse.logsWith
      rcases logs with _ | _
      · rw [Bool.false_or, decide_eq_true_eq] at isDone
        simp [isDone]
      · rfl
    rw [isDone, same]
    exact ⟨session', rfl, leaves.ready, leaves.opened.symm.trans, leaves.keeps⟩
  · rw [Bool.or_eq_true, not_or, Bool.not_eq_true, decide_eq_true_eq] at isDone
    obtain ⟨rfl, supported⟩ := isDone
    have turns : file.use.logsWith true false = true := by
      unfold FileUse.logsWith
      simp [supported]
    have settled := leaves.ready.settled leaves.opened
    have turned : file.Rests (file.stored session' (.database true content)).files
        (file.use.logsWith true false) content := by
      rw [turns]
      exact leaves.ready.toRests.stored true content
    refine ⟨file.stored session' (.database true content), ?_, ⟨turned,
      leaves.ready.suits.logsWith true, ?_⟩, fun _ => turns,
      leaves.keeps.trans (leaves.ready.keeps_stored _)⟩
    · simp only [supported, decide_false, Bool.or_false, Bool.false_eq_true, if_false,
        settled.writable, if_true, settled.clear]
      rfl
    · intro isLogged
      rw [(leaves.ready.keeps_stored _).indexBlocked_eq, leaves.keeps.indexBlocked_eq]
      exact free isLogged

end Ready

end DatabaseFile

namespace Files

variable {files files' files₁ : Files} {path : Path} {use : FileUse} {place : Place}
  {file kept : DatabaseFile} {bearing : Bearing} {logs wal : Bool} {content : Database}

/-- A file that is there is provided as it is. -/
lemma provide_of_file {stored : Content} (access : Access)
    (there : files.at? place = some (.file stored)) : files.provide access place = .ok files := by
  unfold provide
  rw [there]

/-- A connection to the file of a path is to the file that was opened. -/
lemma exists_of_connectFile {connection : Connection}
    (connected : files.connectFile path use wal = (.ok connection, files')) :
    ∃ file bearing files₁, connection = .file file bearing ∧
      files.openDatabase path use = .ok (file, files₁) := by
  unfold connectFile at connected
  rcases opened : files.openDatabase path use with cause | ⟨file₁, files₁⟩
  · rw [opened] at connected
    cases connected
  · rw [opened] at connected
    dsimp only at connected
    split_ifs at connected
    · rcases started : file₁.startLogging.runIn { files := files₁ } with ⟨cause | answer, session⟩
      · simp only [Connection.onFile, started] at connected
        cases connected
      · simp only [Connection.onFile, started] at connected
        cases connected
        exact ⟨_, _, _, rfl, rfl⟩
    · cases connected
      exact ⟨_, _, _, rfl, rfl⟩

/-- Whether the database at a place is written ahead to a log. -/
def logsAt (files : Files) (place : Place) : Bool :=
  match files.at? place with
  | some (.file (.database logs _)) => logs
  | _ => false

end Files

namespace DatabaseFile

variable {file kept : DatabaseFile} {files : Files} {logs wal : Bool} {content : Database}

/-- Whether who uses a file like this may write it, once a log was asked for or not. -/
structure MayChange (file : DatabaseFile) (wal : Bool) (files : Files) : Prop where
  suits : file.use.Suits (files.logsAt file.place)
  usable : file.use.logsWith wal (files.logsAt file.place) = true → file.indexBlocked files = false

/-- What is known of a resting file's log. -/
lemma Rests.logsAt_eq (rests : file.Rests files logs content) :
    files.logsAt file.place = logs := by
  unfold Files.logsAt
  rw [rests.holds]

/-- A file at rest is ready for who may change it. -/
lemma MayChange.ready (may : file.MayChange wal files) (rests : file.Rests files logs content) :
    file.Ready files logs content where
  toRests := rests
  suits := by
    rw [← rests.logsAt_eq]
    exact may.suits
  usable isLogged := by
    refine may.usable ?_
    rw [rests.logsAt_eq, isLogged, FileUse.logsWith_true]

end DatabaseFile

namespace Files

variable {files files' files₁ : Files} {path : Path} {use : FileUse} {place : Place}
  {file kept : DatabaseFile} {bearing : Bearing} {logs wal : Bool} {content : Database}

/-- **A connection to a file at rest** is opened for who may change it, and leaves the file ready
with its tables. -/
lemma connectFile_of_rests (opened : files.openDatabase path use = .ok (file, files))
    (may : file.MayChange wal files) (rests : file.Rests files logs content) :
    ∃ bearing files', files.connectFile path use wal = (.ok (.file file bearing), files') ∧
      file.Ready files' (file.use.logsWith wal logs) content ∧
      (bearing.logOpen = true → file.use.logsWith wal logs = true) ∧ files.Keeps files' := by
  have ready : file.Ready ({ files } : Session).files logs content := may.ready rests
  unfold connectFile
  rw [opened]
  dsimp only
  rcases wal with _ | _
  · rw [FileUse.logsWith_false]
    exact ⟨{}, files, rfl, ready, nofun, .refl _⟩
  · have usable := may.usable
    rw [rests.logsAt_eq] at usable
    obtain ⟨session, started, ready', logged, keeps⟩ := ready.runIn_startLogging nofun usable
    refine ⟨session.toBearing, session.files, ?_, ready', logged, keeps⟩
    simp only [if_true, Connection.onFile, started]

/-- **A connection that was opened to a file at rest** leaves it ready with its tables. -/
lemma ready_of_connect {access : Access} {limit : Nat} {name : String}
    (rests : kept.Rests files logs content)
    (connected : files.connect access wal limit name = (.ok (.file file bearing), files'))
    (same : file.place = kept.place) (may : file.MayChange wal files) :
    file.Ready files' (file.use.logsWith wal logs) content ∧
      (bearing.logOpen = true → file.use.logsWith wal logs = true) ∧ files.Keeps files' := by
  have rests : file.Rests files logs content := rests.of_place same
  obtain ⟨path, use, connected⟩ := exists_of_connect connected
  obtain ⟨_, _, files₁, isFile, opened⟩ := exists_of_connectFile connected
  cases isFile
  have provided := (of_openDatabase opened).2
  rw [provide_of_file _ rests.holds] at provided
  cases provided
  obtain ⟨bearing', files'', connected', ready, logged, keeps⟩ :=
    connectFile_of_rests opened may rests
  rw [connected'] at connected
  cases connected
  exact ⟨ready, logged, keeps⟩

end Files

/-! ## New files -/

namespace DatabaseFile

variable {file : DatabaseFile} {session session' : Session} {content after : Database}

/-- There is room for a journal where the lack of a log is no obstacle. -/
lemma canHold_journal_of_clear (closed : session.logOpen = false)
    (clear : file.obstacle? session = none) : session.files.canHold file.journal = true := by
  unfold obstacle? at clear
  rw [closed, Bool.false_or] at clear
  split_ifs at clear with room
  exact room

/-- Who may write has the right to. -/
lemma access_of_mayWrite (writable : file.mayWrite session = true) : file.use.access ≠ .read := by
  unfold mayWrite at writable
  simp only [Bool.and_eq_true, bne_iff_ne] at writable
  exact writable.1.1

/-- **The first change of an unwritten file** leaves it ready. -/
lemma Unwritten.ready_of_perform (unwritten : file.Unwritten session)
    {command : Command α} {answer answer' : α}
    (answered : command.onTables .blank = .ok (answer, after)) (changed : after ≠ .blank)
    (success : (file.perform command).runIn session = (.ok answer', session')) :
    file.Ready session'.files false after ∧ session'.logOpen = false := by
  have settled := unwritten.settled_of_perform answered changed success
  obtain ⟨between, unwritten, noLog, writable, -, rfl⟩ :=
    unwritten.exists_of_perform answered changed success
  have closed : (file.stored between (.database false after)).logOpen = false := unwritten.closed
  exact ⟨⟨⟨settled.below, settled.holds, settled.noLog, settled.noJournal closed,
    canHold_journal_of_clear closed settled.clear⟩,
    ⟨access_of_mayWrite writable, immutable_of_mayWrite writable, nofun⟩, nofun⟩, closed⟩

/-- A file that was turned to a log is at rest. -/
lemma Turned.rests (turned : file.Turned session content) :
    file.Rests session.files true content where
  below := turned.below
  holds := turned.holds
  noLog := turned.noLog
  noJournal := turned.noJournal
  room := canHold_journal_of_clear turned.closed turned.clear

/-- A turned file that was entered can be followed. -/
lemma Turned.suits (turned : file.Turned session content) {holding : Holding}
    (entered : file.enter.runIn session = (.ok holding, session')) : file.use.Suits true where
  writes := access_of_mayWrite turned.writable
  isMutable := immutable_of_mayWrite turned.writable
  follows _ unsupported := by
    rw [turned.rests.runIn_enter_unsupported turned.closed (immutable_of_mayWrite turned.writable)
      unsupported] at entered
    cases entered

/-- **The first change of a file that was turned to a log** shows that it was ready: no directory
was in the way. -/
lemma Turned.ready_of_perform (turned : file.Turned session content)
    {command : Command α} {answer answer' : α}
    (answered : command.onTables content = .ok (answer, after)) (changed : after ≠ content)
    (success : (file.perform command).runIn session = (.ok answer', session')) :
    file.Ready session'.files true after ∧ session'.logOpen = true := by
  have performed := success
  unfold perform at performed
  obtain ⟨holding, between, entered, performed⟩ := Session.exists_of_runIn_bind performed
  have suits := turned.suits entered
  rw [turned.rests.runIn_enter suits, turned.closed, Bool.not_false, Bool.and_true, if_pos rfl]
    at entered
  cases entered
  have usable : file.indexBlocked session.files = false := by
    rw [← (file.keeps_logged session).indexBlocked_eq]
    exact indexBlocked_of_mayWrite (of_performOnTables answered changed performed).1 rfl
  have ready : file.Ready session.files true content := ⟨turned.rests, suits, fun _ => usable⟩
  obtain ⟨session'', performed, leaves⟩ := ready.runIn_perform_ok (fun _ => rfl) answered
  rw [performed] at success
  cases success
  exact ⟨leaves.ready, leaves.opened⟩

end DatabaseFile

/-- **A new file is ready** once it was opened and migrated, whatever lay beside it and however it
is used. -/
lemma Files.ready_of_migrate {files files₁ files₂ : Files} {access : Access} {wal : Bool}
    {limit : Nat} {name : String} {now : Int} {file : DatabaseFile} {bearing : Bearing}
    {connection : Connection}
    (connected : files.connect access wal limit name = (.ok (.file file bearing), files₁))
    (blank : files.IsBlankAt file.place)
    (migrated : (Connection.file file bearing).migrate files₁ now = (.ok (), connection, files₂)) :
    ∃ bearing' logs, connection = .file file bearing' ∧ file.Ready files₂ logs (.fresh now) ∧
      bearing'.logOpen = logs := by
  obtain ⟨path, use, connected⟩ := Files.exists_of_connect connected
  have start := Files.of_connectFile connected blank
  have answered : (Command.migrate now).onTables .blank = .ok ((), .fresh now) := by
    show (Database.migrate .blank now).map ((), ·) = _
    rw [Database.migrate_blank]
    rfl
  have changed : Database.fresh now ≠ .blank := nofun
  rcases performed :
      (file.perform (Command.migrate now)).runIn { bearing with files := files₁ } with
    ⟨answer, session⟩
  have migrated : (answer, Connection.file file session.toBearing, session.files) =
      (.ok (), connection, files₂) := by
    rw [← migrated]
    simp only [Connection.migrate, Connection.perform, Connection.onFile, performed]
  cases migrated
  rcases start with ⟨-, unwritten⟩ | turned
  · exact ⟨session.toBearing, false, rfl, unwritten.ready_of_perform answered changed performed⟩
  · exact ⟨session.toBearing, true, rfl, turned.ready_of_perform answered changed performed⟩

end AppCatalog
