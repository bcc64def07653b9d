import AppCatalog.Database.Table
import AppCatalog.Store.Error

/-!
# Calls to a store

The three things that can be asked of a store, each with the type of its answer, and plans: what
to do with a store, as a tree of calls whose continuations depend on the answers. A plan knows
nothing of the store that will answer it, so it runs over any backend, one that always fails
included, and the calls that it makes can be listed.
-/

namespace AppCatalog

/-! ## Calls and backends -/

/-- What can be asked of a store. -/
inductive Call where
  /-- All apps without their sources, in the order in which they were stored. -/
  | listAll
  /-- The first app with exactly that identifier. -/
  | find (identifier : String)
  /-- Stores an app behind all others. -/
  | insert (upload : Upload)
  deriving Repr, DecidableEq

/-- The answers to a call that succeeds. -/
def Call.Answer : Call → Type
  | listAll => List Summary
  | find _ => Option App
  | insert _ => App

/-- A way to answer calls from a state, which a call may change. -/
abbrev Backend (σ : Type) : Type :=
  σ → (call : Call) → Except StoreError call.Answer × σ

/-! ## Plans -/

/-- What to do with a store: nothing more, or a call and what to do with its answer. -/
inductive Plan (α : Type) : Type where
  | done (outcome : α)
  | ask (call : Call) (next : Except StoreError call.Answer → Plan α)

namespace Plan

variable {σ α β : Type}

/-- The plan with another outcome. -/
def map (f : α → β) : Plan α → Plan β
  | done outcome => done (f outcome)
  | ask call next => ask call fun answer => (next answer).map f

/-- The outcome of a plan over a backend, and the state after its calls. -/
def run (backend : Backend σ) : Plan α → σ → α × σ
  | done outcome, state => (outcome, state)
  | ask call next, state =>
    (next (backend state call).1).run backend (backend state call).2

/-- The calls that a plan makes over a backend, first to last. -/
def calls (backend : Backend σ) : Plan α → σ → List Call
  | done _, _ => []
  | ask call next, state =>
    call :: (next (backend state call).1).calls backend (backend state call).2

/-- Another outcome changes neither the calls nor the state after them. -/
theorem run_map (f : α → β) (backend : Backend σ) (plan : Plan α) (state : σ) :
    (plan.map f).run backend state =
      (f (plan.run backend state).1, (plan.run backend state).2) := by
  induction plan generalizing state with
  | done outcome => rfl
  | ask call next ih => exact ih _ _

/-- Another outcome changes no call. -/
theorem calls_map (f : α → β) (backend : Backend σ) (plan : Plan α) (state : σ) :
    (plan.map f).calls backend state = plan.calls backend state := by
  induction plan generalizing state with
  | done outcome => rfl
  | ask call next ih => exact congrArg (call :: ·) (ih _ _)

end Plan
end AppCatalog
