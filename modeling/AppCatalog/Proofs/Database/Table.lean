import Mathlib.Tactic.Lemma
import AppCatalog.Database.Migration

/-!
# Tables in the order of their row numbers

The rows of a table stand in increasing order of their numbers, and a row that is added goes where
its number says. This file establishes when that place is behind all others.

* **An ordered table** (`AppTable.Ordered`) has strictly increasing row numbers.
* **The next number is greater than all others** (`Ordered.rowid_lt_nextRowid`) as long as there is
  a greater one; so an app that is appended is the last row (`Ordered.append_eq`).
* **A counted table** (`AppTable.Counted`) has no number that exceeds its number of rows. A created
  table is counted, and stays so under every append (`Counted.append_eq`), so the numbers do not run
  out before the rows do.
-/

namespace AppCatalog

namespace AppTable

/-! ## Ordered tables -/

/-- Whether the row numbers of a table strictly increase. -/
def Ordered (table : AppTable) : Prop :=
  table.rows.Pairwise (·.rowid < ·.rowid)

/-- A row whose number exceeds all others is placed behind them. -/
lemma place_eq_append {row : Row} {rows : List Row}
    (last : ∀ other ∈ rows, other.rowid < row.rowid) :
    place row rows = rows ++ [row] := by
  induction rows with
  | nil => rfl
  | cons first rows ih =>
      have notBefore : ¬ row.rowid < first.rowid := by
        have := last first List.mem_cons_self
        omega
      rw [place, if_neg notBefore, ih fun other among => last other (List.mem_cons_of_mem _ among)]
      rfl

/-- In an ordered table no number exceeds that of the last row. -/
lemma Ordered.rowid_le_getLast {table : AppTable} (ordered : table.Ordered) {last : Row}
    (isLast : table.rows.getLast? = some last) : ∀ row ∈ table.rows, row.rowid ≤ last.rowid := by
  obtain ⟨front, split⟩ := List.getLast?_eq_some_iff.1 isLast
  unfold Ordered at ordered
  rw [split, List.pairwise_append] at ordered
  intro row among
  rw [split, List.mem_append, List.mem_singleton] at among
  rcases among with among | rfl
  · exact Int.le_of_lt (ordered.2.2 row among last (List.mem_singleton_self _))
  · exact Int.le_refl _

/-- The table with an app as its last row, under the next number. -/
def extended (table : AppTable) (app : App) : AppTable :=
  { table with rows := table.rows ++ [⟨table.nextRowid, app⟩] }

/-- The rows of an extended table. -/
@[simp] lemma rows_extended (table : AppTable) (app : App) :
    (table.extended app).rows = table.rows ++ [⟨table.nextRowid, app⟩] := rfl

/-- The apps of an extended table. -/
@[simp] lemma apps_extended (table : AppTable) (app : App) :
    (table.extended app).apps = table.apps ++ [app] := by
  simp [apps]

/-- The next number exceeds all others, unless the greatest possible one is in use. -/
lemma Ordered.rowid_lt_nextRowid {table : AppTable} (ordered : table.Ordered)
    (room : ∀ row ∈ table.rows, row.rowid < maxRowid) :
    ∀ row ∈ table.rows, row.rowid < table.nextRowid := by
  intro row among
  unfold nextRowid
  split
  · next noLast =>
    rw [List.getLast?_eq_none_iff.1 noLast] at among
    cases among
  · next last isLast =>
    have lastAmong : last ∈ table.rows := List.mem_of_getLast? isLast
    rw [if_pos (room last lastAmong)]
    have := ordered.rowid_le_getLast isLast row among
    omega

/-- **An appended app is the last row**, if its id is new and the greatest possible number is not
in use. -/
lemma Ordered.append_eq {table : AppTable} (ordered : table.Ordered) {app : App}
    (room : ∀ row ∈ table.rows, row.rowid < maxRowid)
    (isNew : ∀ row ∈ table.rows, row.app.id ≠ app.id) :
    table.append app = .ok (table.extended app) := by
  have greater : ∀ row ∈ table.rows, row.rowid < (Row.mk table.nextRowid app).rowid :=
    ordered.rowid_lt_nextRowid room
  have freeNumber : (table.rows.any fun row => row.rowid = table.nextRowid) = false := by
    simp only [List.any_eq_false, decide_eq_true_eq]
    intro row among
    have := ordered.rowid_lt_nextRowid room row among
    omega
  have freeId : (table.rows.any fun row => row.app.id = app.id) = false := by
    simp only [List.any_eq_false, decide_eq_true_eq]
    exact isNew
  unfold append add
  simp only [freeNumber, freeId, Bool.false_eq_true, if_false, place_eq_append greater]
  rfl

/-- An ordered table stays ordered when it is extended. -/
lemma Ordered.extended {table : AppTable} (ordered : table.Ordered) (app : App)
    (room : ∀ row ∈ table.rows, row.rowid < maxRowid) : (table.extended app).Ordered := by
  refine List.pairwise_append.2 ⟨ordered, List.pairwise_singleton _ _, ?_⟩
  intro other among row among'
  rw [List.mem_singleton.1 among']
  exact ordered.rowid_lt_nextRowid room other among

/-! ## Counted tables -/

/-- Whether a table is ordered and none of its numbers exceeds the number of its rows. -/
structure Counted (table : AppTable) : Prop where
  ordered : table.Ordered
  rowid_le : ∀ row ∈ table.rows, row.rowid ≤ table.rows.length

/-- A table without rows is counted. -/
lemma counted_of_rows_nil {table : AppTable} (empty : table.rows = []) : table.Counted := by
  constructor
  · unfold Ordered
    rw [empty]
    exact List.Pairwise.nil
  · intro row among
    rw [empty] at among
    cases among

/-- The next number of a counted table is at most one more than the number of its rows. -/
lemma Counted.nextRowid_le {table : AppTable} (counted : table.Counted)
    (room : (table.rows.length : Int) < maxRowid) : table.nextRowid ≤ table.rows.length + 1 := by
  unfold nextRowid
  split
  · omega
  · next last isLast =>
    have := counted.rowid_le last (List.mem_of_getLast? isLast)
    rw [if_pos (by omega)]
    omega

/-- **Appending to a counted table** adds the app behind all others and leaves the table counted,
as long as there are fewer rows than numbers and the id is new. -/
lemma Counted.append_eq {table : AppTable} (counted : table.Counted) {app : App}
    (room : (table.rows.length : Int) < maxRowid)
    (isNew : ∀ row ∈ table.rows, row.app.id ≠ app.id) :
    table.append app = .ok (table.extended app) ∧ (table.extended app).Counted := by
  have below : ∀ row ∈ table.rows, row.rowid < maxRowid := by
    intro row among
    have := counted.rowid_le row among
    omega
  refine ⟨counted.ordered.append_eq below isNew, counted.ordered.extended app below, ?_⟩
  intro row among
  have length_eq : (table.extended app).rows.length = table.rows.length + 1 := by simp
  rw [length_eq]
  rw [rows_extended, List.mem_append, List.mem_singleton] at among
  rcases among with among | rfl
  · have := counted.rowid_le row among
    omega
  · have := counted.nextRowid_le room
    push_cast
    exact this

end AppTable
end AppCatalog
