import Mathlib.Tactic.Lemma
import AppCatalog.Text.Repetition

/-!
# Reading what is known to be there

Where it is known which items stand at the front of a list, repetition takes exactly these. Nothing
has to be known of how the step treats other lists.

* **A list reads as items** (`Step.Reads`) if the step takes them off one after another and declines
  what is left.
* **Repetition takes these items** (`Step.Reads.many_eq`), and there are no others that it takes
  (`Step.reads_many`).
* **Each of them is one that the step can take** (`Step.forall_mem_many`).
-/

namespace AppCatalog.Text.Step

variable {α β : Type}

/-- Whether a step takes items off the front of a list one after another, shortening it each time,
and declines what is left. -/
inductive Reads (step : Step α β) : List α → List β → List α → Prop
  | stop {s : List α} (declined : step s = none) : Reads step s [] s
  | next {s after rest : List α} {item : β} {items : List β} (taken : step s = some (item, after))
      (shorter : after.length < s.length) (more : Reads step after items rest) :
      Reads step s (item :: items) rest

namespace Reads

variable {step : Step α β} {s rest : List α} {items : List β}

/-- There are no more items than elements. -/
lemma length_le (reads : Reads step s items rest) : items.length ≤ s.length := by
  induction reads with
  | stop declined => exact Nat.zero_le _
  | next taken shorter more ih =>
      rw [List.length_cons]
      omega

/-- As many rounds as there are items are enough. -/
lemma manyFrom_eq (reads : Reads step s items rest) {rounds : Nat} (enough : items.length ≤ rounds)
    (found : List β) : step.manyFrom rounds s found = (found.reverse ++ items, rest) := by
  induction reads generalizing rounds found with
  | stop declined =>
      rw [List.append_nil]
      cases rounds with
      | zero => rfl
      | succ rounds => rw [Step.manyFrom, declined]
  | @next s after rest item items taken shorter more ih =>
      cases rounds with
      | zero => simp at enough
      | succ rounds =>
          rw [Step.manyFrom, taken]
          dsimp only
          rw [ih (Nat.le_of_succ_le_succ enough), List.reverse_cons, List.append_assoc,
            List.singleton_append]

/-- **Repetition takes the items that are there.** -/
lemma many_eq (reads : Reads step s items rest) : step.many s = (items, rest) :=
  reads.manyFrom_eq reads.length_le []

end Reads

/-- **A list reads as the items that repetition takes off it**, if that shortens it each time. -/
lemma reads_many {step : Step α β} (shortens : step.Shortens) (s : List α) :
    Reads step s (step.many s).1 (step.many s).2 := by
  induction length_eq : s.length using Nat.strongRecOn generalizing s with
  | ind length ih =>
      rw [Step.many_eq shortens]
      rcases taken : step s with _ | ⟨item, rest⟩
      · exact .stop taken
      · have shorter := shortens s item rest taken
        exact .next taken shorter (ih rest.length (length_eq ▸ shorter) rest rfl)

/-- **What holds of every item that a step can take holds of all that repetition takes.** -/
lemma forall_mem_many {step : Step α β} {p : β → Prop}
    (each : ∀ s item rest, step s = some (item, rest) → p item) (s : List α) :
    ∀ item ∈ (step.many s).1, p item := by
  suffices bounded : ∀ rounds (s : List α) (found : List β), (∀ item ∈ found, p item) →
      ∀ item ∈ (step.manyFrom rounds s found).1, p item from
    bounded s.length s [] (List.forall_mem_nil _)
  intro rounds
  induction rounds with
  | zero =>
      intro s found sound item among
      exact sound item (List.mem_reverse.1 among)
  | succ rounds ih =>
      intro s found sound item among
      unfold Step.manyFrom at among
      split at among
      · exact sound item (List.mem_reverse.1 among)
      · next first rest taken =>
          exact ih rest _ (List.forall_mem_cons.2 ⟨each s first rest taken, sound⟩) item among

end AppCatalog.Text.Step
