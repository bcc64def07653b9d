import Mathlib.Data.List.Nodup
import Mathlib.Data.List.Perm.Subperm
import AppCatalog.Proofs.Database.Table

/-!
# Rows that come and go

Rows are added wherever their numbers say and deleted from anywhere, by the program and by others.
This file says what stays true of a table throughout.

* **A sound table** (`AppTable.Sound`) has rows in increasing order of their numbers, and no id
  twice. It stays sound when a row is added (`Sound.add`) or deleted (`Sound.delete`).
* **A row is refused** (`add_eq_ok`, `exists_of_inUse`) exactly if its number or its id is in use.
* **An app whose id is new** is always added (`Sound.append_eq`), by a number that is free
  (`Ordered.rowid_ne_nextRowid`) even where the greatest possible one is in use.
* **Apps that were there** keep their order when rows come and go (`sublist_add`,
  `Sound.sublist_delete`).
* **The first app with an identifier** (`Ordered.isLeast_find?`) is that of the row with the least
  number.
-/

namespace AppCatalog

namespace AppTable

variable {table table' : AppTable} {row : Row} {rows : List Row}

/-! ## Adding a row -/

/-- A row that is placed is there, with all others. -/
lemma mem_place {other : Row} : other ∈ place row rows ↔ other = row ∨ other ∈ rows := by
  induction rows with
  | nil => simp [place]
  | cons first rows ih =>
      unfold place
      split
      · simp
      · simp only [List.mem_cons, ih]
        tauto

/-- Placing a row leaves the others in their order. -/
lemma sublist_place (row : Row) (rows : List Row) : rows.Sublist (place row rows) := by
  induction rows with
  | nil => exact List.nil_sublist _
  | cons first rows ih =>
      unfold place
      split
      · exact List.sublist_cons_self _ _
      · exact ih.cons_cons first

/-- Placing a row rearranges the rows and the new one. -/
lemma perm_place (row : Row) (rows : List Row) : (place row rows).Perm (row :: rows) := by
  induction rows with
  | nil => exact .refl _
  | cons first rows ih =>
      unfold place
      split
      · exact .refl _
      · exact (ih.cons first).trans (.swap _ _ _)

/-- Rows stay in order when one of a new number is placed. -/
lemma pairwise_place (ordered : rows.Pairwise (·.rowid < ·.rowid))
    (isNew : ∀ other ∈ rows, other.rowid ≠ row.rowid) :
    (place row rows).Pairwise (·.rowid < ·.rowid) := by
  induction rows with
  | nil => exact List.pairwise_singleton _ _
  | cons first rows ih =>
      obtain ⟨before, ordered⟩ := List.pairwise_cons.1 ordered
      unfold place
      split
      · next less =>
        refine List.pairwise_cons.2 ⟨fun other among => ?_, List.pairwise_cons.2 ⟨before, ordered⟩⟩
        rcases List.mem_cons.1 among with rfl | among
        · exact less
        · exact Int.lt_trans less (before other among)
      · next notLess =>
        refine List.pairwise_cons.2 ⟨fun other among => ?_, ih ordered fun other among =>
          isNew other (List.mem_cons_of_mem _ among)⟩
        rcases mem_place.1 among with rfl | among
        · have := isNew first List.mem_cons_self
          omega
        · exact before other among

/-! ## Sound tables -/

/-- Whether the numbers of rows increase and no id occurs twice. -/
structure Sound (table : AppTable) : Prop where
  ordered : table.Ordered
  ids : (table.apps.map App.id).Nodup

/-- Whether the number or the id of a row is in use. -/
def InUse (table : AppTable) (row : Row) : Prop :=
  ∃ other ∈ table.rows, other.rowid = row.rowid ∨ other.app.id = row.app.id

/-- A row that is not refused is placed. -/
lemma add_eq_ok (isNew : ¬ table.InUse row) :
    table.add row = .ok { table with rows := place row table.rows } := by
  have freeNumber : (table.rows.any fun other => other.rowid = row.rowid) = false := by
    simp only [List.any_eq_false, decide_eq_true_eq]
    exact fun other among same => isNew ⟨other, among, .inl same⟩
  have freeId : (table.rows.any fun other => other.app.id = row.app.id) = false := by
    simp only [List.any_eq_false, decide_eq_true_eq]
    exact fun other among same => isNew ⟨other, among, .inr same⟩
  unfold add
  simp only [freeNumber, freeId, Bool.false_eq_true, if_false]

/-- A row whose number or id is in use is refused. -/
lemma exists_of_inUse (used : table.InUse row) : ∃ cause, table.add row = .error cause := by
  unfold add
  split_ifs with number id
  · exact ⟨_, rfl⟩
  · exact ⟨_, rfl⟩
  · obtain ⟨other, among, same | same⟩ := used
    · exact absurd (List.any_eq_true.2 ⟨other, among, decide_eq_true same⟩) number
    · exact absurd (List.any_eq_true.2 ⟨other, among, decide_eq_true same⟩) id

namespace Sound

/-- A table without rows is sound. -/
lemma of_rows_nil (empty : table.rows = []) : table.Sound where
  ordered := (counted_of_rows_nil empty).ordered
  ids := by
    unfold apps
    rw [empty]
    exact List.nodup_nil

/-- **A table stays sound when a row is added.** -/
lemma add (sound : table.Sound) (isNew : ¬ table.InUse row) :
    AppTable.Sound { table with rows := place row table.rows } where
  ordered := pairwise_place sound.ordered fun other among same => isNew ⟨other, among, .inl same⟩
  ids := by
    have rearranged := (perm_place row table.rows).map fun row => row.app.id
    unfold apps
    rw [List.map_map]
    refine rearranged.nodup_iff.2 (List.nodup_cons.2 ⟨fun among => ?_, ?_⟩)
    · obtain ⟨other, isOther, same⟩ := List.mem_map.1 among
      exact isNew ⟨other, isOther, .inr same⟩
    · have ids := sound.ids
      unfold apps at ids
      rwa [List.map_map] at ids

/-- **A table stays sound when a row is deleted.** -/
lemma delete (sound : table.Sound) (rowid : Int) : (table.delete rowid).Sound where
  ordered := List.Pairwise.filter _ sound.ordered
  ids := (((List.filter_sublist).map _).map _).nodup sound.ids

end Sound

/-! ## The program's own rows -/

/-- The row that the program would add is not in use if its id is not, as long as there is a number
behind all others. -/
lemma Sound.not_inUse_next (sound : table.Sound) {app : App}
    (room : ∀ row ∈ table.rows, row.rowid < maxRowid)
    (isNew : ∀ row ∈ table.rows, row.app.id ≠ app.id) :
    ¬ table.InUse ⟨table.nextRowid, app⟩ := by
  rintro ⟨other, among, same | same⟩
  · have less := sound.ordered.rowid_lt_nextRowid room other among
    exact absurd same (Int.ne_of_lt less)
  · exact isNew other among same

/-- A table stays sound when an app is appended. -/
lemma Sound.extended (sound : table.Sound) {app : App}
    (room : ∀ row ∈ table.rows, row.rowid < maxRowid)
    (isNew : ∀ row ∈ table.rows, row.app.id ≠ app.id) : (table.extended app).Sound := by
  have added := sound.add (sound.not_inUse_next room isNew)
  rwa [place_eq_append (sound.ordered.rowid_lt_nextRowid room)] at added

/-- Among the numbers that are taken by chance there is a free one. -/
lemma rowid_ne_greatestFree (rows : List Row) : ∀ row ∈ rows, row.rowid ≠ greatestFree rows := by
  unfold greatestFree
  rcases search : (List.range (rows.length + 1)).find?
      (fun n : Nat => !rows.any (·.rowid = maxRandomRowid - n)) with _ | n
  · -- there are more numbers than rows
    exfalso
    have taken : (List.range (rows.length + 1)).map (fun n : Nat => maxRandomRowid - n) ⊆
        rows.map Row.rowid := by
      intro number among
      obtain ⟨n, inRange, rfl⟩ := List.mem_map.1 among
      have used := List.find?_eq_none.1 search n inRange
      simp only [Bool.not_eq_true', Bool.not_eq_false, List.any_eq_true, decide_eq_true_eq] at used
      obtain ⟨row, among, same⟩ := used
      exact List.mem_map.2 ⟨row, among, same⟩
    have distinct : ((List.range (rows.length + 1)).map
        (fun n : Nat => maxRandomRowid - n)).Nodup :=
      List.nodup_range.map fun n m same => by
        have same : maxRandomRowid - (n : Int) = maxRandomRowid - m := same
        omega
    have few := (distinct.subperm taken).length_le
    simp only [List.length_map, List.length_range] at few
    omega
  · intro row among same
    dsimp only at same
    rw [search, Option.getD_some] at same
    have isFree := List.find?_some search
    simp only [Bool.not_eq_true', List.any_eq_false, decide_eq_true_eq] at isFree
    exact isFree row among same

/-- **The next number is free**, even where the greatest possible one is in use. -/
lemma Ordered.rowid_ne_nextRowid (ordered : table.Ordered) :
    ∀ row ∈ table.rows, row.rowid ≠ table.nextRowid := by
  intro row among
  unfold nextRowid
  split
  · next noLast =>
    rw [List.getLast?_eq_none_iff.1 noLast] at among
    cases among
  · next last isLast =>
    split_ifs
    · have := ordered.rowid_le_getLast isLast row among
      omega
    · exact rowid_ne_greatestFree table.rows row among

/-- **An app whose id is new is added** at the next number. -/
lemma Sound.append_eq (sound : table.Sound) {app : App}
    (isNew : ∀ row ∈ table.rows, row.app.id ≠ app.id) :
    ¬ table.InUse ⟨table.nextRowid, app⟩ ∧
      table.append app = .ok { table with rows := place ⟨table.nextRowid, app⟩ table.rows } := by
  have free : ¬ table.InUse ⟨table.nextRowid, app⟩ := by
    rintro ⟨other, among, same | same⟩
    · exact sound.ordered.rowid_ne_nextRowid other among same
    · exact isNew other among same
  exact ⟨free, add_eq_ok free⟩

/-- A table that a row was added to is as sound as before. -/
lemma Sound.of_add (sound : table.Sound) (added : table.add row = .ok table') : table'.Sound := by
  by_cases used : table.InUse row
  · obtain ⟨cause, refused⟩ := exists_of_inUse used
    cases refused.symm.trans added
  · cases (add_eq_ok used).symm.trans added
    exact sound.add used

/-- The index does not matter to how sound a table is. -/
lemma Sound.with_indexed (sound : table.Sound) (indexed : Bool) :
    AppTable.Sound { table with indexed } :=
  ⟨sound.ordered, sound.ids⟩

/-- An app whose id is in use is refused. -/
lemma exists_of_id_mem {app : App} (used : ∃ row ∈ table.rows, row.app.id = app.id) :
    ∃ cause, table.append app = .error cause := by
  obtain ⟨row, among, same⟩ := used
  exact exists_of_inUse ⟨row, among, .inr same⟩

/-! ## Apps that stay -/

/-- Apps stay in their order when a row is added. -/
lemma sublist_add {survivors : List App} (listed : survivors.Sublist table.apps) (row : Row) :
    survivors.Sublist (AppTable.apps { table with rows := place row table.rows }) :=
  listed.trans ((sublist_place row table.rows).map _)

/-- Whether an app is that of the row of a number. -/
def IsAt (table : AppTable) (rowid : Int) (app : App) : Prop :=
  ∃ row ∈ table.rows, row.rowid = rowid ∧ row.app.id = app.id

instance (table : AppTable) (rowid : Int) (app : App) : Decidable (table.IsAt rowid app) :=
  inferInstanceAs (Decidable (∃ row ∈ table.rows, row.rowid = rowid ∧ row.app.id = app.id))

/-- In a sound table a row has the number of its app. -/
lemma Sound.isAt_iff (sound : table.Sound) {row : Row} (among : row ∈ table.rows) {rowid : Int} :
    table.IsAt rowid row.app ↔ row.rowid = rowid := by
  constructor
  · rintro ⟨other, isOther, rfl, same⟩
    have ids := sound.ids
    unfold apps at ids
    rw [List.map_map] at ids
    have equal : other = row := List.inj_on_of_nodup_map ids isOther among same
    rw [equal]
  · intro same
    exact ⟨row, among, same, rfl⟩

/-- The apps after a deletion are those that were not at its number. -/
lemma Sound.apps_delete (sound : table.Sound) (rowid : Int) :
    (table.delete rowid).apps = table.apps.filter fun app => ¬ table.IsAt rowid app := by
  show (table.rows.filter fun row => row.rowid ≠ rowid).map Row.app =
    (table.rows.map Row.app).filter _
  rw [List.filter_map]
  refine congrArg (List.map Row.app) (List.filter_congr fun row among => ?_)
  simp only [Function.comp_apply, sound.isAt_iff among, ne_eq]

/-- Apps that are not deleted stay in their order. -/
lemma Sound.sublist_delete (sound : table.Sound) {survivors : List App}
    (listed : survivors.Sublist table.apps) (rowid : Int) :
    (survivors.filter fun app => ¬ table.IsAt rowid app).Sublist (table.delete rowid).apps := by
  rw [sound.apps_delete]
  exact listed.filter _

/-! ## Finding an app -/

/-- Whether an app is that of the row with the least number among those with an identifier; there is
none if there is no such row. -/
def IsLeast (table : AppTable) (identifier : String) (app? : Option App) : Prop :=
  ∀ app, app? = some app ↔
    ∃ row ∈ table.rows, row.app = app ∧ app.identifier = identifier ∧
      ∀ other ∈ table.rows, other.app.identifier = identifier → row.rowid ≤ other.rowid

/-- **The first app with an identifier** is that of the row with the least number among those that
have it. -/
lemma Ordered.isLeast_find? (ordered : table.Ordered) (identifier : String) :
    table.IsLeast identifier (table.apps.find? (·.identifier = identifier)) := by
  intro app
  unfold apps Ordered at *
  rw [List.find?_map, Option.map_eq_some_iff]
  constructor
  · rintro ⟨row, found, rfl⟩
    obtain ⟨has, before, after, rows_eq, notBefore⟩ := List.find?_eq_some_iff_append.1 found
    rw [rows_eq, List.pairwise_append] at ordered
    refine ⟨row, List.mem_of_find?_eq_some found, rfl, by simpa using has,
      fun other among same => ?_⟩
    rw [rows_eq, List.mem_append] at among
    rcases among with among | among
    · have := notBefore other among
      simp [same] at this
    · rcases List.mem_cons.1 among with rfl | among
      · exact Int.le_refl _
      · exact Int.le_of_lt ((List.pairwise_cons.1 ordered.2.1).1 other among)
  · rintro ⟨row, among, rfl, has, least⟩
    obtain ⟨before, after, rows_eq⟩ := List.append_of_mem among
    refine ⟨row, List.find?_eq_some_iff_append.2 ⟨by simpa using has, before, after, rows_eq, ?_⟩,
      rfl⟩
    intro other isBefore
    rw [rows_eq, List.pairwise_append] at ordered
    have less := ordered.2.2 other isBefore row List.mem_cons_self
    by_contra same
    have := least other (by rw [rows_eq]; exact List.mem_append_left _ isBefore)
      (by simpa using same)
    omega

end AppTable
end AppCatalog
