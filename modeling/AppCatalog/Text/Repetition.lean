/-!
# Repeated reading

A *step* takes one item off the front of a list and hands back what is left, or declines.
`Step.many` repeats a step until it declines. It is the one loop behind every reader of this
library: percent escapes, UTF-8, the characters of a quoted text, the lines of a document.

The main statement is `Step.many_eq`: for a step that shortens the list whenever it succeeds,
repetition unfolds one item at a time, so the bound on the number of rounds never shows.
-/

namespace AppCatalog.Text

variable {α β : Type}

/-- A step takes one item off the front of a list and leaves the rest, or declines. -/
abbrev Step (α β : Type) : Type := List α → Option (β × List α)

/-- A step that leaves a strictly shorter list whenever it succeeds. -/
def Step.Shortens (step : Step α β) : Prop :=
  ∀ s item rest, step s = some (item, rest) → rest.length < s.length

/-- Runs a step at most `rounds` times, collecting the items in reverse order before `found`. -/
def Step.manyFrom (step : Step α β) : (rounds : Nat) → List α → (found : List β) → List β × List α
  | 0, s, found => (found.reverse, s)
  | rounds + 1, s, found =>
    match step s with
    | none => (found.reverse, s)
    | some (item, rest) => Step.manyFrom step rounds rest (item :: found)

/-- The items that a step takes until it declines, and what it then leaves. -/
def Step.many (step : Step α β) (s : List α) : List β × List α :=
  step.manyFrom s.length s []

/-- Items found earlier stay in front, in the order in which they were found. -/
theorem Step.manyFrom_found (step : Step α β) (rounds : Nat) (s : List α) (found : List β) :
    step.manyFrom rounds s found =
      (found.reverse ++ (step.manyFrom rounds s []).1, (step.manyFrom rounds s []).2) := by
  induction rounds generalizing s found with
  | zero => simp [Step.manyFrom]
  | succ rounds ih =>
    simp only [Step.manyFrom]
    split
    · simp
    · rename_i item rest _
      rw [ih rest (item :: found), ih rest [item]]
      simp

/-- A step that shortens the list needs no more rounds than the list has elements. -/
theorem Step.manyFrom_rounds {step : Step α β} (shortens : step.Shortens) (rounds : Nat)
    (s : List α) (enough : s.length ≤ rounds) :
    step.manyFrom rounds s [] = step.many s := by
  suffices key : ∀ bound (s : List α), s.length ≤ bound → ∀ rounds, s.length ≤ rounds →
      step.manyFrom rounds s [] = step.manyFrom s.length s [] from
    key s.length s (Nat.le_refl _) rounds enough
  intro bound
  induction bound with
  | zero =>
    intro s short rounds _
    have empty : s = [] := List.length_eq_zero_iff.1 (by omega)
    subst empty
    cases rounds with
    | zero => rfl
    | succ rounds =>
      simp only [Step.manyFrom, List.length_nil]
      split
      · rfl
      · rename_i item rest found
        exact absurd (shortens _ _ _ found) (by simp)
  | succ bound ih =>
    intro s short rounds enough
    cases s with
    | nil =>
      cases rounds with
      | zero => rfl
      | succ rounds =>
        simp only [Step.manyFrom, List.length_nil]
        split
        · rfl
        · rename_i item rest found
          exact absurd (shortens _ _ _ found) (by simp)
    | cons head tail =>
      cases rounds with
      | zero => simp at enough
      | succ rounds =>
        simp only [Step.manyFrom, List.length_cons]
        split
        · rfl
        · rename_i item rest found
          have shorter := shortens _ _ _ found
          simp only [List.length_cons] at shorter short enough
          rw [Step.manyFrom_found step rounds, Step.manyFrom_found step tail.length,
            ih rest (by omega) rounds (by omega), ih rest (by omega) tail.length (by omega)]

/-- Repetition unfolds one item at a time. -/
theorem Step.many_eq {step : Step α β} (shortens : step.Shortens) (s : List α) :
    step.many s =
      match step s with
      | none => ([], s)
      | some (item, rest) => (item :: (step.many rest).1, (step.many rest).2) := by
  cases s with
  | nil =>
    simp only [Step.many, List.length_nil, Step.manyFrom]
    split
    · rfl
    · rename_i item rest found
      exact absurd (shortens _ _ _ found) (by simp)
  | cons head tail =>
    show step.manyFrom (tail.length + 1) (head :: tail) [] = _
    simp only [Step.manyFrom]
    split
    · rename_i declined
      simp
    · rename_i item rest found
      have shorter := shortens _ _ _ found
      simp only [List.length_cons] at shorter
      rw [Step.manyFrom_found, Step.manyFrom_rounds shortens tail.length rest (by omega)]
      simp

end AppCatalog.Text
