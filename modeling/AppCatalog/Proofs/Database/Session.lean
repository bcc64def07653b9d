import Mathlib.Tactic.Lemma
import Mathlib.Tactic.SplitIfs
import AppCatalog.Store.Connection

/-!
# Settled sessions

A command first settles what an earlier user left beside a database file, and only then reads or
writes. After the first change nothing is left to settle, and from then on a command does on the
file exactly what it says of tables.

* **Acts** (`Session.runIn_bind`, `Session.exists_of_runIn_bind`): an act of two parts runs the
  second from where the first ends, and a success of the whole is a success of both.
* **Places** (`Place.beside_ne_self`, `Place.beside_ne`): the companions of a file stand apart from
  it and from each other, so a change of one is no change of another.
* **A settled session** (`DatabaseFile.Settled`) holds tables that may be written, with an empty log
  and no journal. A settled session is entered without any change (`Settled.runIn_enter`).
* **Commands** (`Settled.runIn_perform_error`, `Settled.runIn_perform_ok`): on a settled session a
  command answers what it answers on tables; a refusal changes nothing, and a success leaves a
  settled session that holds the tables after it.
-/

namespace AppCatalog

variable {α β : Type}

/-! ## Acts -/

namespace Session

/-- Taking a result that is not there refuses, and changes nothing. -/
lemma runIn_take_error (cause : SqlError) (session : Session) :
    (take (.error cause) : Act α).runIn session = (.error (.refused cause), session) := rfl

/-- The second part of an act runs from where the first part ends. -/
lemma runIn_bind (first : Act α) (second : α → Act β) (session : Session) :
    (first >>= second).runIn session =
      match first.runIn session with
      | (.ok answer, session) => (second answer).runIn session
      | (.error cause, session) => (.error cause, session) := by
  show (ExceptT.run (first >>= second)) session = _
  simp only [Act.runIn, ExceptT.run, bind, ExceptT.bind, ExceptT.mk, StateT.bind, StateT.run]
  generalize first session = outcome
  obtain ⟨outcome, session⟩ := outcome
  cases outcome <;> rfl

/-- If the first part of an act succeeds, the second decides. -/
lemma runIn_bind_of_ok {first : Act α} {second : α → Act β} {session session' : Session}
    {answer : α} (success : first.runIn session = (.ok answer, session')) :
    (first >>= second).runIn session = (second answer).runIn session' := by
  rw [runIn_bind, success]

/-- An act that asks for the session goes on with it. -/
lemma runIn_get_bind (next : Session → Act α) (session : Session) :
    (get >>= next).runIn session = (next session).runIn session := rfl

/-- An act that takes a result that is there goes on with it. -/
lemma runIn_take_bind (answer : α) (next : α → Act β) (session : Session) :
    (take (.ok answer) >>= next).runIn session = (next answer).runIn session := rfl

/-- An act that succeeds has succeeded in both parts. -/
lemma exists_of_runIn_bind {first : Act α} {second : α → Act β} {session session' : Session}
    {answer : β} (success : (first >>= second).runIn session = (.ok answer, session')) :
    ∃ middle between, first.runIn session = (.ok middle, between) ∧
      (second middle).runIn between = (.ok answer, session') := by
  rw [runIn_bind] at success
  rcases outcome : first.runIn session with ⟨cause | middle, between⟩
  · rw [outcome] at success
    cases success
  · rw [outcome] at success
    exact ⟨middle, between, rfl, success⟩

end Session

/-! ## Places -/

namespace Place

/-- A companion is at another place than its file. -/
lemma beside_ne_self (place : Place) {ending : String} (visible : Utf8.encode ending ≠ []) :
    place.beside ending ≠ place := by
  intro same
  have lasts := congrArg List.getLast? same
  unfold beside at lasts
  rw [List.getLast?_concat] at lasts
  rw [← lasts] at lasts
  simp only [Option.getD_some, Option.some.injEq, List.append_right_eq_self] at lasts
  exact visible lasts

/-- Companions of different endings are at different places. -/
lemma beside_ne (place : Place) {ending ending' : String}
    (apart : Utf8.encode ending ≠ Utf8.encode ending') :
    place.beside ending ≠ place.beside ending' := by
  intro same
  unfold beside at same
  rw [List.append_cancel_left_eq, List.cons.injEq, List.append_cancel_left_eq] at same
  exact apart same.1

/-- No companion is at the root. -/
lemma beside_ne_nil (place : Place) (ending : String) : place.beside ending ≠ [] := by
  simp [beside]

end Place

namespace DatabaseFile

variable (file : DatabaseFile)

/-- A journal is apart from its file. -/
lemma journal_ne_place : file.journal ≠ file.place := Place.beside_ne_self _ (by decide)

/-- A log is apart from its file. -/
lemma log_ne_place : file.log ≠ file.place := Place.beside_ne_self _ (by decide)

/-- The index of a log is apart from its file. -/
lemma index_ne_place : file.index ≠ file.place := Place.beside_ne_self _ (by decide)

/-- A log is apart from the journal. -/
lemma log_ne_journal : file.log ≠ file.journal := Place.beside_ne _ (by decide)

/-- The index of a log is apart from the journal. -/
lemma index_ne_journal : file.index ≠ file.journal := Place.beside_ne _ (by decide)

/-- A journal is not at the root. -/
lemma journal_ne_nil : file.journal ≠ [] := Place.beside_ne_nil _ _

/-- A log is not at the root. -/
lemma log_ne_nil : file.log ≠ [] := Place.beside_ne_nil _ _

end DatabaseFile

/-! ## What is at a place decides -/

namespace Files

/-- Whether a place is occupied is decided by what is there. -/
lemma isOccupied_congr {files files' : Files} {place : Place}
    (same : files.at? place = files'.at? place) :
    files.isOccupied place = files'.isOccupied place := by
  unfold isOccupied
  rw [same]

/-- Whether a place holds a directory is decided by what is there. -/
lemma isDirectory_congr {files files' : Files} {place : Place}
    (same : files.at? place = files'.at? place) :
    files.isDirectory place = files'.isDirectory place := by
  unfold isDirectory
  rw [same]

/-- A place from which everything was removed is not occupied. -/
lemma isOccupied_of_at?_none {files : Files} {place : Place} (empty : files.at? place = none) :
    files.isOccupied place = false := by
  unfold isOccupied
  rw [empty]

/-- A place that is not occupied has no bytes. -/
lemma bytesAt_of_isOccupied {files : Files} {place : Place}
    (free : files.isOccupied place = false) :
    DatabaseFile.bytesAt files place = [] := by
  unfold isOccupied at free
  unfold DatabaseFile.bytesAt
  split at free
  · next nothing => rw [nothing]
  · next empty => rw [empty]
  · cases free

/-- A place from which everything was removed holds no directory. -/
lemma isDirectory_of_at?_none {files : Files} {place : Place} (empty : files.at? place = none) :
    files.isDirectory place = false := by
  unfold isDirectory
  rw [empty]
  rfl

end Files

/-! ## Putting other content in a file -/

namespace DatabaseFile

variable {file : DatabaseFile} {session : Session}

/-- The session after other content was put in the file. -/
def stored (file : DatabaseFile) (session : Session) (content : Content) : Session :=
  let written := session.files.set file.place (.file content)
  { session with files := if session.logOpen then written else written.remove file.journal }

/-- Whether the log is open stays as it is. -/
@[simp] lemma logOpen_stored (content : Content) :
    (file.stored session content).logOpen = session.logOpen := rfl

/-- The content is where it was put. -/
lemma at?_stored_place (below : file.place ≠ []) (content : Content) :
    (file.stored session content).files.at? file.place = some (.file content) := by
  unfold stored
  dsimp only
  split_ifs
  · exact Files.at?_set_self _ below _
  · rw [Files.at?_remove_of_ne _ (Ne.symm file.journal_ne_place)]
    exact Files.at?_set_self _ below _

/-- Places other than the file and its journal stay as they are. -/
lemma at?_stored_of_ne (session : Session) {place : Place} (notFile : place ≠ file.place)
    (notJournal : place ≠ file.journal) (content : Content) :
    (file.stored session content).files.at? place = session.files.at? place := by
  unfold stored
  dsimp only
  split_ifs
  · exact Files.at?_set_of_ne _ notFile _
  · rw [Files.at?_remove_of_ne _ notJournal]
    exact Files.at?_set_of_ne _ notFile _

/-- Without a log, the journal is gone afterwards. -/
lemma at?_stored_journal (session : Session) (closed : session.logOpen = false)
    (content : Content) :
    (file.stored session content).files.at? file.journal = none := by
  unfold stored
  rw [closed]
  exact Files.at?_remove_self _ file.journal_ne_nil

/-- The right to write stays as it is. -/
lemma mayWrite_stored (session : Session) (content : Content) :
    file.mayWrite (file.stored session content) = file.mayWrite session := by
  unfold mayWrite indexBlocked
  rw [Files.isDirectory_congr
    (at?_stored_of_ne _ file.index_ne_place file.index_ne_journal content)]
  rfl

/-- What was no obstacle to one change is none to the next. -/
lemma obstacle?_stored (clear : file.obstacle? session = none) (content : Content) :
    file.obstacle? (file.stored session content) = none := by
  unfold obstacle? at clear ⊢
  rcases closed : session.logOpen with _ | _
  · rw [closed, Bool.false_or] at clear
    rw [logOpen_stored, closed, Bool.false_or]
    unfold Files.canHold at clear ⊢
    rw [Files.isDirectory_of_at?_none (at?_stored_journal _ closed content)]
    split_ifs at clear with holds
    simp only [Bool.and_eq_true] at holds
    rw [holds.1]
    rfl
  · rw [logOpen_stored, closed]
    rfl

/-! ## Settled sessions -/

/-- Whether a session may write to the tables that its file holds, and has nothing left to settle.
Changes go through an empty log that is open, or, without a log, through a journal for which there
is room and of which nothing is left over. -/
structure Settled (file : DatabaseFile) (session : Session) (logs : Bool) (content : Database) :
    Prop where
  below : file.place ≠ []
  holds : session.files.at? file.place = some (.file (.database logs content))
  writable : file.mayWrite session = true
  clear : file.obstacle? session = none
  logged : logs = true → session.logOpen = true
  noLog : session.files.isOccupied file.log = false
  noJournal : session.logOpen = false → session.files.isOccupied file.journal = false

variable {logs : Bool} {content : Database}

/-- A file that may be written is not immutable. -/
lemma immutable_of_mayWrite (writable : file.mayWrite session = true) :
    file.use.immutable = false := by
  unfold mayWrite at writable
  simp only [Bool.and_eq_true, Bool.not_eq_true'] at writable
  exact writable.1.2

/-- A session with an open log that may write can use the index of the log. -/
lemma indexBlocked_of_mayWrite (writable : file.mayWrite session = true)
    (opened : session.logOpen = true) : file.indexBlocked session.files = false := by
  unfold mayWrite at writable
  rw [opened, Bool.true_and] at writable
  simp only [Bool.and_eq_true, Bool.not_eq_true'] at writable
  exact writable.2

/-- A journal that is not there needs no settling. -/
lemma runIn_settleJournal (noJournal : session.files.isOccupied file.journal = false) :
    file.settleJournal.runIn session = (.ok (), session) := by
  unfold settleJournal
  rw [Session.runIn_get_bind]
  simp only [noJournal, Bool.and_false, Bool.false_eq_true, if_false]
  rfl

/-- A log that is not there needs no settling. -/
lemma runIn_settleLog (noLog : session.files.isOccupied file.log = false) :
    file.settleLog.runIn session = (.ok (), session) := by
  unfold settleLog
  rw [Session.runIn_get_bind]
  simp only [noLog, Bool.false_eq_true, if_false]
  rfl

/-- A log that is not open is not followed. -/
lemma runIn_followLog_of_closed (closed : session.logOpen = false) :
    file.followLog.runIn session = (.ok (), session) := by
  unfold followLog
  rw [Session.runIn_get_bind]
  simp only [closed, Bool.false_eq_true, if_false]
  rfl

/-- Following an empty log changes nothing. -/
lemma runIn_followLog_of_empty (noLog : session.files.isOccupied file.log = false) :
    file.followLog.runIn session = (.ok (), session) := by
  rcases opened : session.logOpen with _ | _
  · exact runIn_followLog_of_closed opened
  · have notWritten : isWritten session.files file.log = false := by
      unfold isWritten
      rw [Files.bytesAt_of_isOccupied noLog]
      rfl
    unfold followLog
    rw [Session.runIn_get_bind]
    simp only [opened, notWritten, Bool.and_false, if_true, Bool.false_eq_true, if_false]
    unfold recover
    rw [Session.runIn_get_bind]
    simp only [noLog, Bool.false_and, Bool.false_eq_true, if_false]
    rfl

/-- What comes after the settling when a file is entered. -/
def look (file : DatabaseFile) : Session.Act Holding := do
  file.followLog
  let holding ← Session.take (file.holding (← get).files)
  if (← Session.take holding.logs) && !file.use.immutable && !(← get).logOpen then
    file.openLog
    file.followLog
  return holding

/-- A file is entered by settling what is beside it, where that is due, and looking at it. -/
lemma runIn_enter (file : DatabaseFile) (session : Session) :
    file.enter.runIn session =
      if file.use.immutable || session.logOpen then file.look.runIn session
      else
        (do file.settleJournal; file.settleLog; file.look : Session.Act Holding).runIn session := by
  unfold enter
  rw [Session.runIn_get_bind]
  split_ifs <;> rfl

/-- Tables are found as they are if no log has to be opened for them. -/
lemma runIn_look (found : file.holding session.files = .ok (.tables logs content))
    (followed : file.followLog.runIn session = (.ok (), session))
    (logged : logs = true → session.logOpen = true) :
    file.look.runIn session = (.ok (.tables logs content), session) := by
  unfold look
  rw [Session.runIn_bind_of_ok followed, Session.runIn_get_bind, found, Session.runIn_take_bind]
  show (Session.take (.ok logs) >>= _ : Session.Act Holding).runIn session = _
  rw [Session.runIn_take_bind, Session.runIn_get_bind]
  have noNeed : (logs && !file.use.immutable && !session.logOpen) = false := by
    rcases logs with _ | _
    · rfl
    · rw [logged rfl, Bool.not_true, Bool.and_false]
  simp only [noNeed, Bool.false_eq_true, if_false]
  rfl

/-- **A settled session is entered without any change**, and finds its tables. -/
lemma Settled.runIn_enter (settled : file.Settled session logs content) :
    file.enter.runIn session = (.ok (.tables logs content), session) := by
  have found : file.holding session.files = .ok (.tables logs content) := by
    unfold holding
    rw [settled.holds]
  have followed := runIn_followLog_of_empty settled.noLog
  have looked := runIn_look found followed settled.logged
  rw [DatabaseFile.runIn_enter]
  split_ifs with skipped
  · exact looked
  · have closed : session.logOpen = false := by
      simp only [Bool.or_eq_true, not_or, Bool.not_eq_true] at skipped
      exact skipped.2
    rw [Session.runIn_bind_of_ok (runIn_settleJournal (settled.noJournal closed)),
      Session.runIn_bind_of_ok (runIn_settleLog settled.noLog)]
    exact looked

/-- A settled session stays settled when its tables change. -/
lemma Settled.stored (settled : file.Settled session logs content) (after : Database) :
    file.Settled (file.stored session (.database logs after)) logs after where
  below := settled.below
  holds := at?_stored_place settled.below _
  writable := by rw [mayWrite_stored, settled.writable]
  clear := obstacle?_stored settled.clear _
  logged := settled.logged
  noLog := by
    rw [Files.isOccupied_congr (at?_stored_of_ne _ file.log_ne_place file.log_ne_journal _)]
    exact settled.noLog
  noJournal closed :=
    Files.isOccupied_of_at?_none (at?_stored_journal session closed _)

/-! ## Commands on settled sessions -/

/-- A command that tables refuse is refused, and nothing has changed. -/
lemma Settled.runIn_perform_error (settled : file.Settled session logs content)
    {command : Command α} {cause : SqlError} (refused : command.onTables content = .error cause) :
    (file.perform command).runIn session = (.error (.refused cause), session) := by
  unfold perform
  rw [Session.runIn_bind_of_ok settled.runIn_enter]
  show (file.performOnTables command logs content).runIn session = _
  unfold performOnTables
  rw [Session.runIn_get_bind, settled.writable, Command.run_true, refused,
    Session.runIn_bind, Session.runIn_take_error]

/-- A command that tables answer is answered like that. The tables after it are put in the file,
unless they stay as they are and the command would not write them again. -/
lemma Settled.runIn_perform_eq (settled : file.Settled session logs content)
    {command : Command α} {answer : α} {after : Database}
    (answered : command.onTables content = .ok (answer, after)) :
    (file.perform command).runIn session =
      (.ok answer, if command.rewrites || after ≠ content
        then file.stored session (.database logs after) else session) := by
  unfold perform
  rw [Session.runIn_bind_of_ok settled.runIn_enter]
  show (file.performOnTables command logs content).runIn session = _
  unfold performOnTables
  rw [Session.runIn_get_bind, settled.writable, Command.run_true, answered,
    Session.runIn_take_bind]
  dsimp only
  split_ifs
  · rw [settled.clear]
    rfl
  · rfl

/-- **A command that tables answer is answered like that**, and leaves a settled session that holds
the tables after it. -/
lemma Settled.runIn_perform_ok (settled : file.Settled session logs content)
    {command : Command α} {answer : α} {after : Database}
    (answered : command.onTables content = .ok (answer, after)) :
    ∃ session', (file.perform command).runIn session = (.ok answer, session') ∧
      file.Settled session' logs after := by
  refine ⟨_, settled.runIn_perform_eq answered, ?_⟩
  split_ifs with writes
  · exact settled.stored after
  · have unchanged : after = content := by
      simp only [Bool.or_eq_true, decide_eq_true_eq, not_or] at writes
      exact Decidable.of_not_not writes.2
    rw [unchanged]
    exact settled

end DatabaseFile
end AppCatalog
