import Mathlib.Tactic.Lemma
import Std.Data.String.ToNat
import AppCatalog.Proofs.Http.Acceptance
import AppCatalog.Proofs.Store.Recorded

/-!
# Stores can be exchanged

A store in memory and a store over a new database are used in the same ways and answer in the same
ways. Both keep the same ledger, so nothing that ignores stamps can tell one from the other.

* **Plans** (`Catalog.runAll_interchange`) that ignore stamps come to the same over both.
* **Uses** (`Operation`) of a store, and of the service over it, ignore stamps once those are taken
  out of the outcome (`Operation.ignoresStamps`); requests ignore them altogether.
* **Both stores answer alike** (`Catalog.AnswerAlike`), use by use and request by request, as long
  as the database has row numbers left and no id is given twice.
-/

namespace AppCatalog

/-! ## Uses of a store -/

/-- One use of a store, or of the service over it. -/
inductive Operation where
  | insert (upload : Upload)
  | uploadApp (upload : Upload)
  | find (identifier : String)
  | getSource (identifier : String)
  | listAll
  | listApps
  deriving Repr, DecidableEq

/-- What a use of a store comes to. -/
inductive Operation.Outcome where
  | stored (answer : Except StoreError App)
  | found (answer : Except StoreError (Option App))
  | source (answer : Except StoreError (Option String))
  | listed (answer : Except StoreError (List Summary))

/-- An app whose id and time were taken out. -/
def App.unstamped (app : App) : App := app.upload.stamped .blank

/-- An outcome of which ids and times were taken out. -/
def Operation.Outcome.unstamped : Outcome → Outcome
  | stored answer => stored (answer.map App.unstamped)
  | found answer => found (answer.map (Option.map App.unstamped))
  | source answer => source answer
  | listed answer => listed answer

namespace Operation

/-- What a use does with a store. -/
def plan : Operation → Plan Outcome
  | insert upload => .ask (.insert upload) fun answer => .done (.stored answer)
  | uploadApp upload => (Service.uploadApp upload).map .stored
  | find identifier => .ask (.find identifier) fun answer => .done (.found answer)
  | getSource identifier => (Service.getSource identifier).map .source
  | listAll => .ask .listAll fun answer => .done (.listed answer)
  | listApps => Service.listApps.map .listed

/-- The upload that a use stores, if it stores one. -/
def upload? : Operation → Option Upload
  | insert upload | uploadApp upload => some upload
  | find _ | getSource _ | listAll | listApps => none

/-- Storing an upload ignores the stamp that it gets, if that is taken out of the outcome. -/
lemma insert_ignoresStamps (upload : Upload) :
    ((insert upload).plan.map Outcome.unstamped).IgnoresStamps := by
  refine Plan.ignoresStamps_of_content (fun content : Except StoreError Upload =>
    Outcome.stored (content.map (·.stamped .blank))) fun answer => ?_
  cases answer <;> rfl

/-- Looking for an app ignores its stamp, if that is taken out of the outcome. -/
lemma find_ignoresStamps (identifier : String) :
    ((find identifier).plan.map Outcome.unstamped).IgnoresStamps := by
  refine Plan.ignoresStamps_of_content (fun content : Except StoreError (Option Upload) =>
    Outcome.found (content.map (Option.map (·.stamped .blank)))) fun answer => ?_
  rcases answer with cause | _ | app <;> rfl

/-- **No use of a store depends on a stamp**, apart from those in its outcome. -/
lemma ignoresStamps (operation : Operation) :
    (operation.plan.map Outcome.unstamped).IgnoresStamps := by
  cases operation with
  | insert upload => exact insert_ignoresStamps upload
  | uploadApp upload => exact insert_ignoresStamps upload
  | find identifier => exact find_ignoresStamps identifier
  | getSource identifier => exact ((Service.getSource_ignoresStamps identifier).map _).map _
  | listAll => exact (Service.listApps_ignoresStamps.map Outcome.listed).map _
  | listApps => exact (Service.listApps_ignoresStamps.map Outcome.listed).map _

/-- The ledger after a use has the upload that was stored behind the others. -/
lemma state_ledger (operation : Operation) (uploads : List Upload) :
    ((operation.plan.map Outcome.unstamped).run ledger uploads).2 =
      uploads ++ operation.upload?.toList := by
  cases operation with
  | insert upload => rfl
  | uploadApp upload => rfl
  | getSource identifier =>
      rw [Plan.run_map]
      show (((Service.getSource identifier).map Outcome.source).run ledger uploads).2 =
        uploads ++ []
      rw [Plan.run_map, List.append_nil]
      unfold Service.getSource
      split <;> rfl
  | _ => exact (List.append_nil _).symm

end Operation

/-! ## Two stores -/

namespace Catalog

section Interchange

variable {α : Type} {supply supply' : Supply} {memory database : Catalog}

/-- **Plans that ignore stamps** come to the same over an empty store in memory and over a new
database. -/
lemma runAll_interchange (unique : Function.Injective fun n => (supply' n).id)
    (inMemory : memory.store = .memory []) (isNew : database.IsNew) {plans : List (Plan α)}
    (ignore : ∀ plan ∈ plans, plan.IgnoresStamps)
    (numbers : ((Plan.runAll ledger plans []).2.length : Int) ≤ AppTable.maxRowid) :
    (Plan.runAll (backend supply) plans memory).1 =
      (Plan.runAll (backend supply') plans database).1 :=
  calc (Plan.runAll (backend supply) plans memory).1
    _ = (Plan.runAll ledger plans []).1 := HasRoom.runAll_eq (.inl inMemory) ignore
    _ = (Plan.runAll (backend supply') plans database).1 :=
      (HasRoom.runAll_eq (.inr ⟨isNew, unique, numbers⟩) ignore).symm

/-- Whether two catalogs answer alike as long as there are no more uploads than row numbers. -/
structure AnswerAlike (supply supply' : Supply) (catalog catalog' : Catalog) : Prop where
  /-- Whatever is done with them comes to the same, use by use, apart from ids and times. -/
  operations : ∀ operations : List Operation,
    ((operations.filterMap Operation.upload?).length : Int) ≤ AppTable.maxRowid →
      (Plan.runAll (backend supply) (operations.map Operation.plan) catalog).1.map
          Operation.Outcome.unstamped =
        (Plan.runAll (backend supply') (operations.map Operation.plan) catalog').1.map
          Operation.Outcome.unstamped
  /-- Requests are answered the same, one after another. -/
  requests : ∀ requests : List Request,
    ((requests.filterMap Request.upload?).length : Int) ≤ AppTable.maxRowid →
      (Plan.runAll (backend supply) (requests.map Router.answer) catalog).1 =
        (Plan.runAll (backend supply') (requests.map Router.answer) catalog').1

/-- **Both stores answer alike**, one in memory that is empty and one over a database that was just
created and migrated, if the database is given no id twice. -/
theorem stores_interchangeable (unique : Function.Injective fun n => (supply' n).id)
    (inMemory : memory.store = .memory []) (isNew : database.IsNew) :
    AnswerAlike supply supply' memory database := by
  constructor
  · intro operations numbers
    have unstamped_eq : ∀ (supply : Supply) (catalog : Catalog),
        (Plan.runAll (backend supply) (operations.map Operation.plan) catalog).1.map
            Operation.Outcome.unstamped =
          (Plan.runAll (backend supply)
            (operations.map fun operation => operation.plan.map Operation.Outcome.unstamped)
            catalog).1 := by
      intro supply catalog
      have mapped := Plan.runAll_map Operation.Outcome.unstamped (backend supply)
        (operations.map Operation.plan) catalog
      rw [List.map_map] at mapped
      exact (congrArg Prod.fst mapped).symm
    rw [unstamped_eq, unstamped_eq]
    refine runAll_interchange unique inMemory isNew ?_ ?_
    · intro plan among
      obtain ⟨operation, -, rfl⟩ := List.mem_map.mp among
      exact operation.ignoresStamps
    · rw [Plan.state_runAll_ledger Operation.state_ledger]
      exact numbers
  · intro requests numbers
    refine runAll_interchange unique inMemory isNew ?_ ?_
    · intro plan among
      obtain ⟨request, -, rfl⟩ := List.mem_map.mp among
      exact Router.answer_ignoresStamps request
    · rw [Router.state_runAll_ledger]
      exact numbers

end Interchange

/-! ## A database in an empty directory -/

/-- A store in memory and a database in an empty directory, with numbers for ids, answer alike. -/
theorem created_interchangeable :
    AnswerAlike (fun n => ⟨toString n, 0⟩) (fun n => ⟨toString n, n⟩)
      { files := .fresh [], store := .memory [] } (created (.fresh []) "apps.db" 0) :=
  stores_interchangeable (fun _ _ same => Nat.repr_injective same) rfl created_isNew

end Catalog
end AppCatalog
