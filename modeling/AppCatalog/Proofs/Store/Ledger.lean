import Mathlib.Tactic.Lemma
import AppCatalog.Proofs.Store.Stamps
import AppCatalog.Store.Basic

/-!
# The ledger behind a store

The simplest store there is keeps the uploads in the order in which they came, and nothing else.
Every other store is measured against it.

* **The ledger** (`ledger`) is a backend whose state is the list of uploads.
* **A backend keeps a ledger** (`Backend.Keeps`) if one call at a time it answers what the ledger
  answers, apart from stamps, and goes on to keep the ledger after that call. A store may have room
  for a limited number of uploads only, so this is asked of ledgers up to a limit.
* **Runs** (`Backend.Keeps.run_eq`, `Backend.Keeps.runAll_eq`): what holds of one call holds of
  every plan that ignores stamps, and of plans one after another.
* **A store in memory keeps its ledger without a limit** (`Catalog.inMemory_keeps`).
-/

namespace AppCatalog

variable {α β σ : Type}

/-! ## Plans one after another -/

/-- The outcomes of plans one after another, and the state after them. -/
def Plan.runAll (backend : Backend σ) : List (Plan α) → σ → List α × σ
  | [], state => ([], state)
  | plan :: plans, state =>
    let (outcome, state) := plan.run backend state
    let (outcomes, state) := runAll backend plans state
    (outcome :: outcomes, state)

/-- Other outcomes change neither the calls nor the state after them. -/
lemma Plan.runAll_map (f : α → β) (backend : Backend σ) (plans : List (Plan α)) (state : σ) :
    runAll backend (plans.map (Plan.map f)) state =
      ((runAll backend plans state).1.map f, (runAll backend plans state).2) := by
  induction plans generalizing state with
  | nil => rfl
  | cons plan plans ih => simp only [List.map_cons, runAll, run_map, ih]

/-- There is an outcome of every plan. -/
@[simp] lemma Plan.length_runAll (backend : Backend σ) (plans : List (Plan α)) (state : σ) :
    (runAll backend plans state).1.length = plans.length := by
  induction plans generalizing state with
  | nil => rfl
  | cons plan plans ih => simp only [runAll, List.length_cons, ih]

/-! ## The ledger -/

/-- The stamp where none is given. -/
def Stamp.blank : Stamp := ⟨"", 0⟩

/-- The store that keeps the uploads as they come. -/
def ledger : Backend (List Upload)
  | uploads, .listAll => (.ok (uploads.map Upload.summary), uploads)
  | uploads, .find identifier =>
    (.ok ((uploads.find? (·.identifier = identifier)).map (·.stamped .blank)), uploads)
  | uploads, .insert upload => (.ok (upload.stamped .blank), uploads ++ [upload])

/-- A ledger loses nothing in a call. -/
lemma prefix_ledger (uploads : List Upload) (call : Call) :
    uploads <+: (ledger uploads call).2 := by
  cases call with
  | listAll => exact List.prefix_refl _
  | find identifier => exact List.prefix_refl _
  | insert upload => exact List.prefix_append _ _

/-- A ledger loses nothing in a plan. -/
lemma Plan.prefix_run_ledger (plan : Plan α) (uploads : List Upload) :
    uploads <+: (plan.run ledger uploads).2 := by
  induction plan generalizing uploads with
  | done outcome => exact List.prefix_refl _
  | ask call next ih => exact (prefix_ledger uploads call).trans (ih _ _)

/-- A ledger loses nothing in plans one after another. -/
lemma Plan.prefix_runAll_ledger (plans : List (Plan α)) (uploads : List Upload) :
    uploads <+: (runAll ledger plans uploads).2 := by
  induction plans generalizing uploads with
  | nil => exact List.prefix_refl _
  | cons plan plans ih => exact (plan.prefix_run_ledger uploads).trans (ih _)

/-- **Plans that append.** If every plan of a family puts at most one upload behind the others, then
the plans of a list put theirs there one after another. -/
lemma Plan.state_runAll_ledger {ι : Type} {plan : ι → Plan α} {upload? : ι → Option Upload}
    (appends : ∀ index uploads, ((plan index).run ledger uploads).2 =
      uploads ++ (upload? index).toList) (indices : List ι) (uploads : List Upload) :
    (runAll ledger (indices.map plan) uploads).2 = uploads ++ indices.filterMap upload? := by
  induction indices generalizing uploads with
  | nil => exact (List.append_nil _).symm
  | cons index indices ih =>
      show (runAll ledger (indices.map plan) _).2 = _
      rw [ih, appends, List.filterMap_cons, List.append_assoc]
      cases upload? index <;> rfl

/-! ## Keeping a ledger -/

/-- Whether a backend answers like a ledger of at most `limit` uploads, from states that a
relation ties to ledgers, and stays tied to the ledger after every call. -/
structure Backend.Keeps (backend : Backend σ) (limit : Nat) (kept : σ → List Upload → Prop) :
    Prop where
  /-- The answer is that of the ledger, apart from stamps. -/
  content_eq : ∀ {state uploads}, kept state uploads → ∀ call,
    (ledger uploads call).2.length ≤ limit →
      (backend state call).1.map call.content = (ledger uploads call).1.map call.content
  /-- The state after a call is tied to the ledger after it. -/
  kept_after : ∀ {state uploads}, kept state uploads → ∀ call,
    (ledger uploads call).2.length ≤ limit → kept (backend state call).2 (ledger uploads call).2

namespace Backend.Keeps

variable {backend : Backend σ} {limit : Nat} {kept : σ → List Upload → Prop}

/-- **One plan.** Over a backend that keeps a ledger, a plan that ignores stamps comes to what it
comes to over the ledger. -/
lemma run_eq (keeps : backend.Keeps limit kept) {plan : Plan α} (ignores : plan.IgnoresStamps)
    {state : σ} {uploads : List Upload} (tied : kept state uploads)
    (room : (plan.run ledger uploads).2.length ≤ limit) :
    (plan.run backend state).1 = (plan.run ledger uploads).1 ∧
      kept (plan.run backend state).2 (plan.run ledger uploads).2 := by
  induction ignores generalizing state uploads with
  | done outcome => exact ⟨rfl, tied⟩
  | @ask call next same rest ih =>
      simp only [Plan.run] at room ⊢
      -- the ledger only grows, so there is room after the first call as well
      have roomHere : (ledger uploads call).2.length ≤ limit :=
        Nat.le_trans (Plan.prefix_run_ledger _ _).length_le room
      have alike := same _ _ (keeps.content_eq tied call roomHere)
      rw [alike]
      exact ih _ (keeps.kept_after tied call roomHere) room

/-- **Plans one after another.** Over a backend that keeps a ledger, plans that ignore stamps come
to what they come to over the ledger. -/
lemma runAll_eq (keeps : backend.Keeps limit kept) {plans : List (Plan α)}
    (ignore : ∀ plan ∈ plans, plan.IgnoresStamps) {state : σ} {uploads : List Upload}
    (tied : kept state uploads) (room : (Plan.runAll ledger plans uploads).2.length ≤ limit) :
    (Plan.runAll backend plans state).1 = (Plan.runAll ledger plans uploads).1 ∧
      kept (Plan.runAll backend plans state).2 (Plan.runAll ledger plans uploads).2 := by
  induction plans generalizing state uploads with
  | nil => exact ⟨rfl, tied⟩
  | cons plan plans ih =>
      simp only [Plan.runAll] at room ⊢
      have roomHere : (plan.run ledger uploads).2.length ≤ limit :=
        Nat.le_trans (Plan.prefix_runAll_ledger plans _).length_le room
      obtain ⟨outcome, tied⟩ := keeps.run_eq (ignore plan List.mem_cons_self) tied roomHere
      obtain ⟨outcomes, tied⟩ :=
        ih (fun plan among => ignore plan (List.mem_cons_of_mem _ among)) tied room
      exact ⟨by rw [outcome, outcomes], tied⟩

end Backend.Keeps

/-! ## A store in memory -/

namespace Catalog

/-- Whether a catalog holds apps in memory, in the order of those uploads. -/
def InMemory (catalog : Catalog) (uploads : List Upload) : Prop :=
  ∃ apps, catalog.store = .memory apps ∧ apps.map App.upload = uploads

/-- What was uploaded decides which app is found. -/
lemma map_find?_upload (apps : List App) (identifier : String) :
    (apps.find? (·.identifier = identifier)).map App.upload =
      (apps.map App.upload).find? (·.identifier = identifier) := by
  rw [List.find?_map]
  rfl

/-- **A store in memory keeps its ledger**, whatever the stamps and however many uploads there
are. -/
lemma inMemory_keeps (supply : Supply) (limit : Nat) :
    (backend supply).Keeps limit InMemory := by
  constructor
  · rintro ⟨files, store, issued⟩ uploads ⟨apps, rfl, rfl⟩ call -
    cases call with
    | listAll =>
        show Except.ok (apps.map App.summary) = .ok ((apps.map App.upload).map Upload.summary)
        rw [List.map_map]
        rfl
    | find identifier =>
        show Except.ok ((apps.find? (·.identifier = identifier)).map App.upload) =
          .ok ((((apps.map App.upload).find? (·.identifier = identifier)).map
            (·.stamped .blank)).map App.upload)
        rw [map_find?_upload, Option.map_map]
        simp [Function.comp_def]
    | insert upload => rfl
  · rintro ⟨files, store, issued⟩ uploads ⟨apps, rfl, rfl⟩ call -
    cases call with
    | listAll => exact ⟨apps, rfl, rfl⟩
    | find identifier => exact ⟨apps, rfl, rfl⟩
    | insert upload => exact ⟨apps ++ [upload.stamped (supply issued)], rfl, by simp [ledger]⟩

end Catalog
end AppCatalog
