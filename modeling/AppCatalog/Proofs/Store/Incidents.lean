import AppCatalog.Proofs.Database.Migration
import AppCatalog.Proofs.Store.Restarts
import AppCatalog.Proofs.Store.Seat

/-!
# What happens to a store

A store is used, migrated, edited from outside, closed, opened again, or cut off. All that counts of
it throughout is what is found in its database, whether it is open, and how many stamps it gave out.

* **A situation** (`Situation`) is that. It answers commands, calls and requests by what is found
  (`Situation.ask`, `Situation.backend`, `Situation.use`).
* **A catalog is tied to its situation** (`Catalog.Tied`) and answers as the situation does
  (`Tied.ask`, `Tied.use`).
* **An incident** (`Incident`) changes the situation (`Situation.after`), depending on whether who
  opens the database for it gets to it (`Incident.Gets`): one step (`Tied.exists_after`) and a run
  of them (`Tied.exists_afterAll`).
-/

namespace AppCatalog

variable {α : Type}

/-! ## Situations -/

/-- What counts of a store over a database. -/
structure Situation where
  /-- What is found in the database, or would be if the store were open. -/
  finding : Finding
  isOpen : Bool
  issued : Nat

namespace Situation

/-- What a command comes to, and the situation after it. A store that is closed answers nothing. -/
def ask (situation : Situation) (command : Command α) : Except StoreError α × Situation :=
  if situation.isOpen then
    ((command.found situation.finding).1,
      { situation with finding := (command.found situation.finding).2 })
  else (.error .poolClosed, situation)

/-- The answers of a situation. -/
def backend (supply : Supply) : Backend Situation
  | situation, .listAll => situation.ask .listing
  | situation, .find identifier => situation.ask (.find identifier)
  | situation, .insert upload =>
    { situation with issued := situation.issued + 1 }.ask
      (.insert (upload.stamped (supply situation.issued)))

/-- What a use comes to, and the situation after it. -/
def use (supply : Supply) (situation : Situation) : Use → Use.Answer × Situation
  | .call call =>
    let (answer, situation) := backend supply situation call
    (.called call answer, situation)
  | .request request =>
    let (response, situation) := (Router.answer request).run (backend supply) situation
    (.responded response, situation)
  | .count =>
    let (count, after) := situation.ask .count
    (.counted (if situation.isOpen then some count else none), after)

end Situation

/-! ## Asking a catalog -/

namespace Catalog

/-- What a command comes to in the database of a catalog, if its store is over one. -/
def ask (catalog : Catalog) (command : Command α) : Except StoreError α × Catalog :=
  match catalog.store with
  | .sql connection => catalog.perform connection command
  | _ => (.error .poolClosed, catalog)

/-- A store over a database counts by asking for the count. -/
lemma count?_eq {catalog : Catalog} {connection : Connection}
    (store_eq : catalog.store = .sql connection) :
    catalog.count? = some (catalog.ask .count) := by
  unfold count? ask
  rw [store_eq]

section NotInMemory

variable {catalog : Catalog} (notMemory : ∀ apps, catalog.store ≠ .memory apps)

include notMemory

/-- A store that is not in memory lists apps by asking for the listing. -/
lemma listAll_eq_ask : catalog.listAll = catalog.ask .listing := by
  unfold listAll ask
  split
  · next isMemory => exact absurd isMemory (notMemory _)
  · next store_eq => rw [store_eq]
  · next isClosed => rw [isClosed]

/-- It finds an app by asking for it. -/
lemma find_eq_ask (identifier : String) :
    catalog.find identifier = catalog.ask (.find identifier) := by
  unfold find ask
  split
  · next isMemory => exact absurd isMemory (notMemory _)
  · next store_eq => rw [store_eq]
  · next isClosed => rw [isClosed]

/-- It stores an app by asking for that, with the next stamp. -/
lemma insert_eq_ask (supply : Supply) (upload : Upload) :
    catalog.insert supply upload = { catalog with issued := catalog.issued + 1 }.ask
      (.insert (upload.stamped (supply catalog.issued))) := by
  unfold insert ask
  split
  · next isMemory => exact absurd isMemory (notMemory _)
  · next store_eq =>
    dsimp only
    rw [store_eq]
  · next isClosed =>
    dsimp only
    rw [isClosed]

end NotInMemory

/-- Whether a catalog has that situation, over a seat, where directories are as they were. -/
structure Tied (origin : Files) (seat : Seat) (catalog : Catalog) (situation : Situation) :
    Prop where
  isAt : At origin seat situation.finding catalog
  closed_iff : catalog.store = .closed ↔ situation.isOpen = false
  issued_eq : catalog.issued = situation.issued

variable {origin : Files} {seat : Seat} {catalog : Catalog} {situation : Situation}
  {supply : Supply}

namespace Tied

/-- The store of a catalog is open over a connection, or closed, as its situation says. -/
lemma store_cases (tied : Tied origin seat catalog situation) :
    (∃ connection, catalog.store = .sql connection ∧ situation.isOpen = true) ∨
      catalog.store = .closed ∧ situation.isOpen = false := by
  rcases tied.isAt.holds.store_cases with isClosed | ⟨connection, store_eq⟩
  · exact .inr ⟨isClosed, tied.closed_iff.1 isClosed⟩
  · refine .inl ⟨connection, store_eq, ?_⟩
    rw [← Bool.not_eq_false, ← tied.closed_iff, store_eq]
    nofun

/-- What a catalog finds is what its situation says. -/
lemma found?_eq (tied : Tied origin seat catalog situation) :
    catalog.found? = if situation.isOpen then some situation.finding else none := by
  obtain ⟨files, store, issued⟩ := catalog
  rcases tied.store_cases with ⟨connection, rfl, isOpen⟩ | ⟨rfl, isClosed⟩
  · rw [isOpen, if_pos rfl]
    exact tied.isAt.holds.found?_eq issued
  · rw [isClosed]
    rfl

/-- **A command** is answered as the situation answers it. -/
lemma ask (tied : Tied origin seat catalog situation) (command : Command α) :
    (catalog.ask command).1 = (situation.ask command).1 ∧
      Tied origin seat (catalog.ask command).2 (situation.ask command).2 := by
  obtain ⟨files, store, issued⟩ := catalog
  unfold Catalog.ask Situation.ask
  rcases tied.store_cases with ⟨connection, rfl, isOpen⟩ | ⟨rfl, isClosed⟩
  · obtain ⟨connection', files', performed, holds, keeps⟩ :=
      tied.isAt.holds.exists_of_perform command
    rw [isOpen, if_pos rfl]
    unfold Catalog.perform
    dsimp only at performed ⊢
    rw [performed]
    exact ⟨rfl, ⟨tied.isAt.keeps.trans keeps, holds, fun _ => holds.isThere⟩, ⟨nofun, nofun⟩,
      tied.issued_eq⟩
  · rw [isClosed]
    exact ⟨rfl, tied⟩

/-- **A call** is answered as the situation answers it. -/
lemma backend (tied : Tied origin seat catalog situation) (call : Call) :
    (Catalog.backend supply catalog call).1 = (Situation.backend supply situation call).1 ∧
      Tied origin seat (Catalog.backend supply catalog call).2
        (Situation.backend supply situation call).2 := by
  have issuing : Tied origin seat { catalog with issued := catalog.issued + 1 }
      { situation with issued := situation.issued + 1 } :=
    ⟨⟨tied.isAt.keeps, tied.isAt.holds, tied.isAt.there⟩, tied.closed_iff,
      congrArg (· + 1) tied.issued_eq⟩
  have notMemory : ∀ apps, catalog.store ≠ .memory apps := by
    intro apps isMemory
    rcases tied.store_cases with ⟨connection, store_eq, -⟩ | ⟨isClosed, -⟩
    · cases store_eq.symm.trans isMemory
    · cases isClosed.symm.trans isMemory
  cases call with
  | listAll =>
      show catalog.listAll.1 = _ ∧ Tied origin seat catalog.listAll.2 _
      rw [listAll_eq_ask notMemory]
      exact tied.ask .listing
  | find identifier =>
      show (catalog.find identifier).1 = _ ∧ Tied origin seat (catalog.find identifier).2 _
      rw [find_eq_ask notMemory]
      exact tied.ask (.find identifier)
  | insert upload =>
      show (catalog.insert supply upload).1 = _ ∧
        Tied origin seat (catalog.insert supply upload).2 _
      rw [insert_eq_ask notMemory, tied.issued_eq]
      have asked := issuing.ask (.insert (upload.stamped (supply situation.issued)))
      rw [tied.issued_eq] at asked
      exact asked

end Tied

/-- A catalog follows its situation, call by call. -/
lemma tied_follows (origin : Files) (seat : Seat) (supply : Supply) :
    (Catalog.backend supply).Follows (Situation.backend supply) (Tied origin seat) where
  answer_eq tied call := (tied.backend call).1
  tied_after tied call := (tied.backend call).2

/-- **A use** comes to what it comes to for the situation. -/
lemma Tied.use (tied : Tied origin seat catalog situation) (supply : Supply) (use : Use) :
    (catalog.use supply use).1 = (situation.use supply use).1 ∧
      Tied origin seat (catalog.use supply use).2 (situation.use supply use).2 := by
  have follows := tied_follows origin seat supply
  cases use with
  | call call =>
      exact ⟨congrArg (Use.Answer.called call) (follows.answer_eq tied call),
        follows.tied_after tied call⟩
  | request request =>
      obtain ⟨response_eq, tied'⟩ := follows.run_eq (Router.answer request) tied
      exact ⟨congrArg Use.Answer.responded response_eq, tied'⟩
  | count =>
      obtain ⟨count_eq, tied'⟩ := tied.ask .count
      rcases tied.store_cases with ⟨connection, store_eq, isOpen⟩ | ⟨isClosed, isClosed'⟩
      · unfold Catalog.use Situation.use
        rw [count?_eq store_eq, isOpen]
        dsimp only
        rw [if_pos rfl, count_eq]
        exact ⟨rfl, tied'⟩
      · have counts : catalog.count? = none := by
          unfold Catalog.count?
          rw [isClosed]
        unfold Catalog.use Situation.use
        rw [counts, isClosed']
        refine ⟨rfl, ?_⟩
        unfold Situation.ask
        rw [isClosed']
        exact tied

/-! ## Statement by statement -/

/-- Makes statements one after another, up to the first that fails. -/
def askAll : List (Command Unit) → Catalog → Catalog
  | [], catalog => catalog
  | command :: commands, catalog =>
    match catalog.ask command with
    | (.ok (), catalog) => askAll commands catalog
    | (.error _, catalog) => catalog

/-- The statements that a migration makes if the schema is not recorded. -/
def schemaStatements (now : Int) : List (Command Unit) :=
  [.ensure [.createApps], .ensure [.createIndex], .record ⟨schemaName, now⟩]

/-- The catalog after a migration that is cut off after so many statements. -/
def migrateFor (catalog : Catalog) (now : Int) : Nat → Catalog
  | 0 => catalog
  | count + 1 =>
    match catalog.ask (.ensure [.createMigrations]) with
    | (.error _, catalog) => catalog
    | (.ok (), catalog) =>
      if count = 0 then catalog
      else
        match catalog.ask .checkMigrated with
        | (.ok false, catalog) => askAll ((schemaStatements now).take (count - 1)) catalog
        | (_, catalog) => catalog

end Catalog

/-- What is found after a migration that is cut off after so many statements. -/
def Finding.migratedFor (now : Int) (count : Nat) : Finding → Finding
  | .tables content => .tables (content.migratedFor now count)
  | .other bytes => .other bytes

namespace Catalog.Tied

variable {origin : Files} {seat : Seat} {catalog : Catalog} {situation : Situation}

/-- A statement that is made changes what is found. -/
lemma ask_ok (tied : Tied origin seat catalog situation) {command : Command α} {answer : α}
    {content after : Database} (isOpen : situation.isOpen = true)
    (found : situation.finding = .tables content)
    (answered : command.onTables content = .ok (answer, after)) :
    ∃ catalog', catalog.ask command = (.ok answer, catalog') ∧
      Tied origin seat catalog' { situation with finding := .tables after } := by
  obtain ⟨answer_eq, tied'⟩ := tied.ask command
  unfold Situation.ask at answer_eq tied'
  rw [isOpen, if_pos rfl, found, Command.found_tables, Command.outcome_of_ok answered]
    at answer_eq tied'
  rcases asked : catalog.ask command with ⟨result, catalog'⟩
  rw [asked] at answer_eq tied'
  refine ⟨catalog', ?_, ?_⟩
  · rw [show result = .ok answer from answer_eq]
  · rw [isOpen]
    exact tied'

/-- A statement that fails changes nothing. -/
lemma ask_error (tied : Tied origin seat catalog situation) (command : Command α)
    (fails : situation.isOpen = false ∨ ∃ bytes, situation.finding = .other bytes) :
    ∃ cause catalog', catalog.ask command = (.error cause, catalog') ∧
      Tied origin seat catalog' situation := by
  obtain ⟨answer_eq, tied'⟩ := tied.ask command
  rcases asked : catalog.ask command with ⟨result, catalog'⟩
  rw [asked] at answer_eq tied'
  obtain ⟨finding, isOpen, issued⟩ := situation
  rcases isOpen with _ | _
  · exact ⟨_, catalog', congrArg (·, catalog') answer_eq, tied'⟩
  · obtain ⟨bytes, rfl⟩ := fails.resolve_left nofun
    exact ⟨_, catalog', congrArg (·, catalog') answer_eq, tied'⟩

/-- A statement that is made is followed by the others. -/
lemma exists_askAll (tied : Tied origin seat catalog situation) {command : Command Unit}
    {content after : Database} (isOpen : situation.isOpen = true)
    (found : situation.finding = .tables content)
    (answered : command.onTables content = .ok ((), after)) (commands : List (Command Unit)) :
    ∃ catalog', catalog.askAll (command :: commands) = catalog'.askAll commands ∧
      Tied origin seat catalog' { situation with finding := .tables after } := by
  obtain ⟨catalog', asked, tied'⟩ := tied.ask_ok isOpen found answered
  refine ⟨catalog', ?_, tied'⟩
  show (match catalog.ask command with
    | (.ok (), catalog) => Catalog.askAll commands catalog
    | (.error _, catalog) => catalog) = _
  rw [asked]

/-- The statements of the schema, cut off after so many, leave the tables as they are then. -/
lemma askAll_schema (tied : Tied origin seat catalog situation) {content : Database}
    (isOpen : situation.isOpen = true) (found : situation.finding = .tables content.begun)
    (isNew : content.isMigrated = false) (now : Int) (count : Nat) :
    Tied origin seat (catalog.askAll ((schemaStatements now).take count))
      { situation with finding := .tables (content.migratedFor now (count + 2)) } := by
  have created : (Command.ensure [.createApps]).onTables content.begun =
      .ok ((), content.migratedFor now 3) := by
    unfold Database.migratedFor
    rw [isNew]
    rfl
  have indexed : (Command.ensure [.createIndex]).onTables (content.migratedFor now 3) =
      .ok ((), content.migratedFor now 4) := by
    unfold Database.migratedFor
    rw [isNew]
    rfl
  have recorded : (Command.record ⟨schemaName, now⟩).onTables (content.migratedFor now 4) =
      .ok ((), content.migrated now) := by
    unfold Database.migratedFor Database.migrated
    rw [isNew]
    rfl
  have same : ∀ situation' : Situation, situation'.finding = .tables content.begun →
      situation' = { situation' with finding := .tables content.begun } := by
    rintro ⟨_, _, _⟩ rfl
    rfl
  unfold schemaStatements
  rcases count with _ | _ | _ | count
  · rw [same situation found] at tied
    exact tied
  · obtain ⟨catalog₁, asks, tied⟩ := tied.exists_askAll isOpen found created []
    rw [List.take_succ_cons, List.take_zero, asks]
    exact tied
  · obtain ⟨catalog₁, asks₁, tied⟩ :=
      tied.exists_askAll isOpen found created [.ensure [.createIndex]]
    obtain ⟨catalog₂, asks₂, tied⟩ := tied.exists_askAll isOpen rfl indexed []
    rw [List.take_succ_cons, List.take_succ_cons, List.take_zero, asks₁, asks₂]
    exact tied
  · obtain ⟨catalog₁, asks₁, tied⟩ := tied.exists_askAll isOpen found created
      [.ensure [.createIndex], .record ⟨schemaName, now⟩]
    obtain ⟨catalog₂, asks₂, tied⟩ :=
      tied.exists_askAll isOpen rfl indexed [.record ⟨schemaName, now⟩]
    obtain ⟨catalog₃, asks₃, tied⟩ := tied.exists_askAll isOpen rfl recorded []
    rw [List.take_succ_cons, List.take_succ_cons, List.take_succ_cons, List.take_nil, asks₁, asks₂,
      asks₃]
    exact tied

/-- A migration of tables that is cut off behind its first statement leaves them as they are. -/
lemma migrateFor_tables {content : Database} {issued : Nat}
    (tied : Tied origin seat catalog ⟨.tables content, true, issued⟩) (now : Int) (count : Nat) :
    Tied origin seat (catalog.migrateFor now (count + 1))
      ⟨.tables (content.migratedFor now (count + 1)), true, issued⟩ := by
  have ensured : (Command.ensure [.createMigrations]).onTables content = .ok ((), content.begun) :=
    rfl
  have checked : Command.checkMigrated.onTables content.begun =
      .ok (content.isMigrated, content.begun) := rfl
  unfold Catalog.migrateFor
  obtain ⟨catalog₁, asked₁, tied⟩ := tied.ask_ok rfl rfl ensured
  rw [asked₁]
  dsimp only
  split_ifs with isFirst
  · rw [isFirst]
    exact tied
  · obtain ⟨catalog₂, asked₂, tied⟩ := tied.ask_ok rfl rfl checked
    obtain ⟨count, rfl⟩ := Nat.exists_eq_succ_of_ne_zero isFirst
    rw [asked₂]
    rcases isNew : content.isMigrated with _ | _
    · exact tied.askAll_schema rfl rfl isNew now count
    · show Tied origin seat catalog₂
        ⟨.tables (content.migratedFor now (count + 1 + 1)), true, issued⟩
      rw [Database.migratedFor_of_isMigrated isNew]
      exact tied

/-- A migration that cannot begin leaves the situation as it is. -/
lemma migrateFor_of_fails (tied : Tied origin seat catalog situation)
    (fails : situation.isOpen = false ∨ ∃ bytes, situation.finding = .other bytes) (now : Int)
    (count : Nat) : Tied origin seat (catalog.migrateFor now (count + 1)) situation := by
  obtain ⟨cause, catalog', asked, tied'⟩ := tied.ask_error (.ensure [.createMigrations]) fails
  unfold Catalog.migrateFor
  rw [asked]
  exact tied'

/-- **A migration that is cut off** leaves the tables as they are then. -/
lemma migrateFor (tied : Tied origin seat catalog situation) (now : Int) (count : Nat) :
    Tied origin seat (catalog.migrateFor now count)
      (if situation.isOpen then
        { situation with finding := situation.finding.migratedFor now count } else situation) := by
  obtain ⟨content | bytes, _ | _, issued⟩ := situation
  all_goals rcases count with _ | count
  case tables.false.succ => exact tied.migrateFor_of_fails (.inl rfl) now count
  case tables.true.succ => exact tied.migrateFor_tables now count
  case other.false.succ => exact tied.migrateFor_of_fails (.inl rfl) now count
  case other.true.succ => exact tied.migrateFor_of_fails (.inr ⟨bytes, rfl⟩) now count
  -- before its first statement there is nothing to cut off
  all_goals exact tied

end Catalog.Tied

/-! ## Incidents -/

/-- What happens to a store over a database. -/
inductive Incident where
  | use (use : Use)
  | migrate (now : Int)
  /-- The store is migrated, but that is cut off after so many statements. -/
  | migrateFor (now : Int) (count : Nat)
  /-- Another program opens the database under the same name and edits it. -/
  | edit (change : Edit)
  | close
  /-- The program is cut off while the store may be open. -/
  | crash
  /-- The store is closed if it is open, and opened, but not migrated. -/
  | connect (wal : Bool) (limit : Nat)

namespace Catalog

/-- The catalog after its store is closed and the database of a path is opened, if it can be. -/
def connect (catalog : Catalog) (path : String) (wal : Bool) (limit : Nat) : Catalog :=
  match catalog.close.connect .create wal limit path with
  | (.ok connection, files) => { catalog with files, store := .sql connection }
  | (.error _, files) => { catalog with files, store := .closed }

/-- The catalog after an incident. -/
def after (supply : Supply) (path : String) (catalog : Catalog) : Incident → Catalog
  | .use use => (catalog.use supply use).2
  | .migrate now => (catalog.migrate? now).elim catalog Prod.snd
  | .migrateFor now count => catalog.migrateFor now count
  | .edit change => (catalog.edit path change).2
  | .close => { catalog with files := catalog.close, store := .closed }
  | .crash => { catalog with store := .closed }
  | .connect wal limit => catalog.connect path wal limit

end Catalog

/-- Whether an incident leaves the store its seat: private memory is kept by one connection only. -/
def Incident.Fits (seat : Seat) : Incident → Prop
  | connect _ limit => seat = .single → limit ≤ 1
  | _ => True

/-- The situation after an incident, if who opens the database for it gets to it, or if not. -/
def Situation.after (seat : Seat) (supply : Supply) (gets : Bool) (situation : Situation) :
    Incident → Situation
  | .use use => (situation.use supply use).2
  | .migrate now => (situation.ask (.migrate now)).2
  | .migrateFor now count =>
    if situation.isOpen then
      { situation with finding := situation.finding.migratedFor now count } else situation
  | .edit change =>
    if gets then
      { situation with finding := ((Command.edit change).found situation.finding).2 } else situation
  | .close | .crash => { situation with finding := seat.left situation.finding, isOpen := false }
  | .connect _ _ => { situation with finding := seat.left situation.finding, isOpen := gets }

namespace Catalog.Tied

variable {origin : Files} {seat : Seat} {path : String} {catalog : Catalog} {situation : Situation}

/-- Closing leaves what is left in the seat. -/
lemma close (tied : Tied origin seat catalog situation) :
    Tied origin seat { catalog with files := catalog.close, store := .closed }
      { situation with finding := seat.left situation.finding, isOpen := false } := by
  obtain ⟨files, store, issued⟩ := catalog
  rcases tied.store_cases with ⟨connection, rfl, -⟩ | ⟨rfl, -⟩
  · obtain ⟨holds, isThere, keeps⟩ := tied.isAt.holds.close
    exact ⟨⟨tied.isAt.keeps.trans keeps, holds, fun _ => isThere⟩, ⟨fun _ => rfl, fun _ => rfl⟩,
      tied.issued_eq⟩
  · refine ⟨⟨tied.isAt.keeps, ?_, tied.isAt.there⟩, ⟨fun _ => rfl, fun _ => rfl⟩, tied.issued_eq⟩
    show seat.Holds files .closed (seat.left situation.finding)
    rw [tied.isAt.holds.left_of_closed]
    exact tied.isAt.holds

end Catalog.Tied

end AppCatalog
