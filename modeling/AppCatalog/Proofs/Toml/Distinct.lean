import Mathlib.Data.List.Nodup
import AppCatalog.Proofs.Text.Repetition
import AppCatalog.Toml.Document

/-!
# The keys of a table are distinct

No document gives a table one key twice, wherever the table stands: at the top, under a header,
between braces or in an array.

* **Distinct keys** (`Value.Distinct`, `Draft.Distinct`) are those of a table and of every table
  inside it.
* **Every step of the assembly keeps them**: a change at the end of a path (`distinct_of_descend`),
  and from it an assignment, a header and a double header.
* **A document has them** (`distinct_of_parse?`).
-/

namespace AppCatalog.Toml

/-! ## Distinct keys -/

/-- Whether every table in a value has distinct keys. -/
inductive Value.Distinct : Value → Prop
  | text (value : String) : Distinct (.text value)
  | integer (value : Int) : Distinct (.integer value)
  | float (value : Double) : Distinct (.float value)
  | boolean (value : Bool) : Distinct (.boolean value)
  | dateTime : Distinct .dateTime
  | array {items : List Value} (inside : ∀ item ∈ items, Distinct item) : Distinct (.array items)
  | table {entries : Entries} (apart : (entries.map Prod.fst).Nodup)
      (inside : ∀ entry ∈ entries, Distinct entry.2) : Distinct (.table entries)

/-- Whether every table in an entry under assembly has distinct keys. -/
inductive Node.Distinct : Node → Prop
  | value {content : Value} (inside : content.Distinct) : Distinct (.value content)
  | table {origin : Origin} {entries : Draft} (apart : (entries.map Prod.fst).Nodup)
      (inside : ∀ entry ∈ entries, Distinct entry.2) : Distinct (.table origin entries)
  | tables {elements : List Draft} (apart : ∀ element ∈ elements, (element.map Prod.fst).Nodup)
      (inside : ∀ element ∈ elements, ∀ entry ∈ element, Distinct entry.2) :
      Distinct (.tables elements)

/-- Whether a table under assembly and every table in it have distinct keys. -/
structure Draft.Distinct (draft : Draft) : Prop where
  apart : (draft.map Prod.fst).Nodup
  inside : ∀ entry ∈ draft, entry.2.Distinct

/-- A table under assembly is an entry with distinct keys. -/
lemma Node.distinct_table {origin : Origin} {draft : Draft} :
    (Node.table origin draft).Distinct ↔ draft.Distinct := by
  refine ⟨fun distinct => ?_, fun distinct => .table distinct.apart distinct.inside⟩
  cases distinct with
  | table apart inside => exact ⟨apart, inside⟩

/-- An array of tables under assembly is an entry with distinct keys. -/
lemma Node.distinct_tables {elements : List Draft} :
    (Node.tables elements).Distinct ↔ ∀ element ∈ elements, Draft.Distinct element := by
  refine ⟨fun distinct element among => ?_, fun distinct => .tables
    (fun element among => (distinct element among).apart)
    fun element among => (distinct element among).inside⟩
  cases distinct with
  | tables apart inside => exact ⟨apart element among, inside element among⟩

/-! ## Changing a draft -/

namespace Draft.Distinct

variable {draft : Draft} {key : String} {node : Node}

/-- An empty draft has distinct keys. -/
lemma nil : Draft.Distinct [] :=
  ⟨List.nodup_nil, List.forall_mem_nil _⟩

/-- A key that is new may be added. -/
lemma append (distinct : draft.Distinct) (isNew : draft.lookup key = none)
    (inside : node.Distinct) : Draft.Distinct (draft ++ [(key, node)]) where
  apart := by
    rw [List.map_append, List.map_singleton]
    refine distinct.apart.append (List.nodup_singleton _)
      (List.disjoint_singleton.2 fun among => ?_)
    obtain ⟨entry, isEntry, rfl⟩ := List.mem_map.1 among
    have other := List.lookup_eq_none_iff.1 isNew entry isEntry
    exact bne_iff_ne.1 other rfl
  inside := List.forall_mem_append.2 ⟨distinct.inside, List.forall_mem_singleton.2 inside⟩

/-- What is found under a key has distinct keys. -/
lemma of_lookup (distinct : draft.Distinct) (found : draft.lookup key = some node) :
    node.Distinct := by
  obtain ⟨before, after, rfl, -⟩ := List.lookup_eq_some_iff.1 found
  exact distinct.inside (key, node) (List.mem_append_right _ List.mem_cons_self)

/-- An entry may be replaced. -/
lemma replace (distinct : draft.Distinct) (inside : node.Distinct) :
    (draft.replace key node).Distinct where
  apart := by
    have same : (draft.replace key node).map Prod.fst = draft.map Prod.fst := by
      unfold Draft.replace
      rw [List.map_map]
      refine List.map_congr_left fun entry _ => ?_
      rw [Function.comp_apply]
      split
      · next isKey => exact isKey.symm
      · rfl
    rw [same]
    exact distinct.apart
  inside := by
    intro entry among
    obtain ⟨old, isOld, rfl⟩ := List.mem_map.1 among
    split
    · exact inside
    · exact distinct.inside old isOld

/-- An entry may move behind the others. -/
lemma erase_append (distinct : draft.Distinct) (inside : node.Distinct) :
    Draft.Distinct (draft.erase key ++ [(key, node)]) := by
  have others : (draft.erase key).Distinct :=
    { apart := distinct.apart.sublist (List.filter_sublist.map _)
      inside := fun entry among => distinct.inside entry (List.mem_of_mem_filter among) }
  refine others.append (List.lookup_eq_none_iff.2 fun entry among => ?_) inside
  have apart : entry.1 ≠ key := of_decide_eq_true (List.mem_filter.1 among).2
  exact bne_iff_ne.2 apart.symm

end Draft.Distinct

/-! ## Assembling a table -/

namespace Draft

variable {draft after : Draft} {path : List String}

/-- **A change at the end of a path keeps keys distinct** if it does so where it happens. -/
lemma distinct_of_descend {origin current : Origin} {change : Origin → Draft → Option Draft}
    (keeps : ∀ kind draft after, change kind draft = some after → draft.Distinct → after.Distinct)
    (distinct : draft.Distinct) (changed : descend origin change path current draft = some after) :
    after.Distinct := by
  induction path generalizing current draft after with
  | nil => exact keeps current draft after changed distinct
  | cons key path ih =>
      unfold descend at changed
      split at changed
      · next isNew =>
          obtain ⟨below, made, rfl⟩ := Option.map_eq_some_iff.1 changed
          exact distinct.append isNew (Node.distinct_table.2 (ih .nil made))
      · next kind below found =>
          split at changed
          · cases changed
          · obtain ⟨made, isMade, rfl⟩ := Option.map_eq_some_iff.1 changed
            have inside := Node.distinct_table.1 (distinct.of_lookup found)
            exact distinct.replace (Node.distinct_table.2 (ih inside isMade))
      · next elements found =>
          have inside := Node.distinct_tables.1 (distinct.of_lookup found)
          split at changed
          · cases changed
          · next last isLast =>
              obtain ⟨made, isMade, rfl⟩ := Option.map_eq_some_iff.1 changed
              have lastOf := inside last (List.mem_of_getLast? isLast)
              refine distinct.replace (Node.distinct_tables.2 (List.forall_mem_append.2
                ⟨fun element among => inside element (List.dropLast_subset _ among), ?_⟩))
              exact List.forall_mem_singleton.2 (ih lastOf isMade)
      · cases changed

/-- An assignment keeps keys distinct. -/
lemma distinct_of_assign {content : Value} (inside : content.Distinct) (distinct : draft.Distinct)
    (assigned : draft.assign path content = some after) : after.Distinct := by
  refine distinct_of_descend (fun kind draft after changed distinct => ?_) distinct assigned
  split at changed
  · cases changed
  · split at changed
    · cases changed
    · split at changed
      · cases changed
      · next isNew =>
          cases changed
          rw [Bool.not_eq_true, Option.isSome_eq_false_iff, Option.isNone_iff_eq_none] at isNew
          exact distinct.append isNew (.value inside)

variable {assignments : List (List String × Value)}

/-- Assignments keep keys distinct. -/
lemma distinct_of_assignAll (inside : ∀ assignment ∈ assignments, assignment.2.Distinct)
    (distinct : draft.Distinct) (assigned : draft.assignAll assignments = some after) :
    after.Distinct := by
  induction assignments generalizing draft with
  | nil =>
      cases assigned
      exact distinct
  | cons assignment assignments ih =>
      rw [List.forall_mem_cons] at inside
      obtain ⟨next, first, rest⟩ := Option.bind_eq_some_iff.1 assigned
      exact ih inside.2 (distinct_of_assign inside.1 distinct first) rest

/-- A table opened under a path keeps keys distinct. -/
lemma distinct_of_openTable (inside : ∀ assignment ∈ assignments, assignment.2.Distinct)
    (distinct : draft.Distinct) (opened : draft.openTable path assignments = some after) :
    after.Distinct := by
  refine distinct_of_descend (fun kind draft after changed distinct => ?_) distinct opened
  have filled {key : String} {below : Draft} (isBelow : below.Distinct)
      (made : (below.assignAll assignments).map
        (fun below => draft.erase key ++ [(key, .table .explicit below)]) = some after) :
      after.Distinct := by
    obtain ⟨table, isTable, rfl⟩ := Option.map_eq_some_iff.1 made
    exact distinct.erase_append
      (Node.distinct_table.2 (distinct_of_assignAll inside isBelow isTable))
  split at changed
  · cases changed
  · split at changed
    · exact filled .nil changed
    · next found => exact filled (Node.distinct_table.1 (distinct.of_lookup found)) changed
    · cases changed

/-- A table added to an array keeps keys distinct. -/
lemma distinct_of_addElement (inside : ∀ assignment ∈ assignments, assignment.2.Distinct)
    (distinct : draft.Distinct) (added : draft.addElement path assignments = some after) :
    after.Distinct := by
  refine distinct_of_descend (fun kind draft after changed distinct => ?_) distinct added
  split at changed
  · cases changed
  · split at changed
    · next isNew =>
        obtain ⟨element, isElement, rfl⟩ := Option.map_eq_some_iff.1 changed
        have made := distinct_of_assignAll inside .nil isElement
        exact distinct.append isNew (Node.distinct_tables.2 (List.forall_mem_singleton.2 made))
    · next elements found =>
        obtain ⟨element, isElement, rfl⟩ := Option.map_eq_some_iff.1 changed
        have made := distinct_of_assignAll inside .nil isElement
        have before := Node.distinct_tables.1 (distinct.of_lookup found)
        exact distinct.replace (Node.distinct_tables.2
          (List.forall_mem_append.2 ⟨before, List.forall_mem_singleton.2 made⟩))
    · cases changed

end Draft

/-! ## The finished table -/

/-- A finished table has the keys of its draft. -/
lemma finishedEntries_eq_map (draft : Draft) :
    finishedEntries draft = draft.map fun entry => (entry.1, entry.2.finished) := by
  induction draft with
  | nil => rfl
  | cons entry draft ih =>
      unfold finishedEntries
      rw [ih, List.map_cons]

/-- A finished array has the tables of its draft. -/
lemma finishedElements_eq_map (elements : List Draft) :
    finishedElements elements = elements.map fun element => .table (finishedEntries element) := by
  induction elements with
  | nil => rfl
  | cons element elements ih =>
      unfold finishedElements
      rw [ih, List.map_cons]

/-- A finished table has distinct keys if those of its draft are distinct and what its entries
become has distinct keys. -/
lemma distinct_table_finished {draft : Draft} (apart : (draft.map Prod.fst).Nodup)
    (inside : ∀ entry ∈ draft, entry.2.finished.Distinct) :
    (Value.table (finishedEntries draft)).Distinct := by
  rw [finishedEntries_eq_map]
  refine .table ?_ fun entry among => ?_
  · rwa [List.map_map]
  · obtain ⟨old, isOld, rfl⟩ := List.mem_map.1 among
    exact inside old isOld

/-- **What an entry becomes has distinct keys** if the entry has. -/
lemma Node.Distinct.finished {node : Node} (distinct : node.Distinct) : node.finished.Distinct := by
  induction distinct with
  | value inside => exact inside
  | table apart inside ih => exact distinct_table_finished apart ih
  | tables apart inside ih =>
      unfold Node.finished
      rw [finishedElements_eq_map]
      refine .array fun item among => ?_
      obtain ⟨element, isElement, rfl⟩ := List.mem_map.1 among
      exact distinct_table_finished (apart element isElement) (ih element isElement)

/-- A draft becomes a table with distinct keys if it has them. -/
lemma Draft.Distinct.finished {draft : Draft} (distinct : draft.Distinct) :
    (Value.table (finishedEntries draft)).Distinct :=
  distinct_table_finished distinct.apart fun entry among => (distinct.inside entry among).finished

/-! ## Reading -/

/-- Whether a reader only gives values with distinct keys. -/
def GivesDistinct (reader : Reader Value) : Prop :=
  ∀ s content rest, reader s = some (content, rest) → content.Distinct

variable {reader : Reader Value}

/-- What an assignment assigns has distinct keys. -/
lemma distinct_of_assignment (gives : GivesDistinct reader) {s rest : List Char}
    {found : List String × Value} (taken : assignment reader s = some (found, rest)) :
    found.2.Distinct := by
  simp only [assignment, Option.bind_eq_bind, Option.bind_eq_some_iff, Option.pure_def,
    Option.some.injEq, Prod.mk.injEq] at taken
  obtain ⟨key, -, equals, -, content, isContent, rfl, -⟩ := taken
  exact gives _ _ _ isContent

/-- An item of an array has distinct keys. -/
lemma distinct_of_item (gives : GivesDistinct reader) {s rest : List Char} {content : Value}
    (taken : item reader s = some (content, rest)) : content.Distinct := by
  simp only [item, Option.bind_eq_bind, Option.bind_eq_some_iff, Option.pure_def,
    Option.some.injEq, Prod.mk.injEq] at taken
  obtain ⟨found, isFound, rfl, -⟩ := taken
  exact gives _ _ _ isFound

/-- An array that is read has distinct keys. -/
lemma givesDistinct_arrayBody (gives : GivesDistinct reader) :
    GivesDistinct (arrayBody reader) := by
  intro s content rest taken
  unfold arrayBody at taken
  split at taken
  · obtain ⟨_, -, same⟩ := Option.map_eq_some_iff.1 taken
    cases same
    exact .array (List.forall_mem_nil _)
  · next first after isFirst =>
      dsimp only at taken
      obtain ⟨_, -, same⟩ := Option.bind_eq_some_iff.1 taken
      cases same
      refine .array (List.forall_mem_cons.2 ⟨distinct_of_item gives isFirst, ?_⟩)
      refine Text.Step.forall_mem_many (fun s item rest taken => ?_) after
      unfold afterComma at taken
      split at taken
      · exact distinct_of_item gives taken
      · cases taken

/-- An inline table that is read has distinct keys. -/
lemma givesDistinct_inlineBody (gives : GivesDistinct reader) :
    GivesDistinct (inlineBody reader) := by
  intro s content rest taken
  unfold inlineBody at taken
  split at taken
  · obtain ⟨_, -, same⟩ := Option.map_eq_some_iff.1 taken
    cases same
    exact .table List.nodup_nil (List.forall_mem_nil _)
  · next first after isFirst =>
      dsimp only at taken
      obtain ⟨_, -, taken⟩ := Option.bind_eq_some_iff.1 taken
      obtain ⟨table, isTable, same⟩ := Option.bind_eq_some_iff.1 taken
      cases same
      obtain ⟨draft, isDraft, rfl⟩ := Option.map_eq_some_iff.1 isTable
      refine (Draft.distinct_of_assignAll ?_ .nil isDraft).finished
      refine List.forall_mem_cons.2 ⟨distinct_of_assignment gives isFirst, ?_⟩
      refine Text.Step.forall_mem_many (fun s item rest taken => ?_) after
      unfold afterComma at taken
      split at taken
      · exact distinct_of_assignment gives taken
      · cases taken

/-- A whole number that is read has distinct keys, as it has none. -/
lemma distinct_of_integer? {n : Int} {content : Value} (found : integer? n = some content) :
    content.Distinct := by
  unfold integer? at found
  split at found
  · cases found
    exact .integer n
  · cases found

/-- A floating-point number that is read has distinct keys, as it has none. -/
lemma distinct_of_float? {x : Double} {content : Value} (found : float? x = some content) :
    content.Distinct := by
  unfold float? at found
  split at found
  · cases found
  · cases found
    exact .float x

/-- A number in another base has distinct keys. -/
lemma givesDistinct_based (base : Nat) : GivesDistinct (based base) := by
  intro s content rest taken
  simp only [based, Option.bind_eq_bind, Option.bind_eq_some_iff, Option.pure_def,
    Option.some.injEq, Prod.mk.injEq] at taken
  obtain ⟨_, -, value, isValue, rfl, -⟩ := taken
  exact distinct_of_integer? isValue

/-- A decimal number has distinct keys. -/
lemma givesDistinct_decimal (negative : Bool) : GivesDistinct (decimal negative) := by
  intro s content rest taken
  unfold decimal at taken
  obtain ⟨⟨whole, behind⟩, -, taken⟩ := Option.bind_eq_some_iff.1 taken
  have float (fraction : List Nat) (behind : List Char)
      (taken : ((optionalExponent behind).bind fun power =>
        (float? (.ofDecimal negative (Text.ofDigits 10 (whole ++ fraction))
          (power.1 - fraction.length))).bind fun value => some (value, power.2)) =
            some (content, rest)) : content.Distinct := by
    obtain ⟨power, -, taken⟩ := Option.bind_eq_some_iff.1 taken
    obtain ⟨value, isValue, same⟩ := Option.bind_eq_some_iff.1 taken
    cases same
    exact distinct_of_float? isValue
  dsimp only at taken
  split at taken
  · obtain ⟨fraction, -, taken⟩ := Option.bind_eq_some_iff.1 taken
    exact float _ _ taken
  · exact float [] _ taken
  · exact float [] _ taken
  · obtain ⟨value, isValue, same⟩ := Option.bind_eq_some_iff.1 taken
    cases same
    exact distinct_of_integer? isValue

/-- A number in any notation has distinct keys. -/
lemma givesDistinct_number : GivesDistinct number := by
  intro s content rest taken
  unfold number at taken
  split at taken
  · exact givesDistinct_based 16 _ _ _ taken
  · exact givesDistinct_based 8 _ _ _ taken
  · exact givesDistinct_based 2 _ _ _ taken
  · dsimp only at taken
    split at taken
    · cases taken
      exact .float _
    · cases taken
      exact .float _
    · exact givesDistinct_decimal _ _ _ _ taken

/-- A date or a time has distinct keys, as it has none. -/
lemma givesDistinct_moment : GivesDistinct moment := by
  intro s content rest taken
  unfold moment at taken
  split at taken
  · cases taken
    exact .dateTime
  · obtain ⟨_, -, same⟩ := Option.map_eq_some_iff.1 taken
    cases same
    exact .dateTime

/-- A value that does not nest has distinct keys. -/
lemma givesDistinct_scalar : GivesDistinct scalar := by
  intro s content rest taken
  unfold scalar at taken
  split at taken
  · cases taken
    exact .boolean true
  · cases taken
    exact .boolean false
  · split at taken
    · cases taken
      exact .text _
    · split at taken
      · next isMoment =>
          cases taken
          exact givesDistinct_moment _ _ _ isMoment
      · exact givesDistinct_number _ _ _ taken

/-- **A value that is read has distinct keys**, however deep it nests. -/
lemma givesDistinct_value (depth : Nat) : GivesDistinct (value depth) := by
  induction depth with
  | zero => exact givesDistinct_scalar
  | succ depth ih =>
      intro s content rest taken
      unfold value at taken
      split at taken
      · next same =>
          cases same
          exact givesDistinct_arrayBody ih _ _ _ taken
      · next same =>
          cases same
          exact givesDistinct_inlineBody ih _ _ _ taken
      · exact givesDistinct_scalar _ _ _ taken

/-! ## Documents -/

/-- What a line assigns has distinct keys. -/
lemma distinct_of_line {s rest : List Char} {found : List String × Value}
    (taken : line s = some (some found, rest)) : found.2.Distinct := by
  unfold line at taken
  split at taken
  · cases taken
  · cases taken
  · split at taken
    · cases taken
    · obtain ⟨⟨entry, after⟩, isLine, same⟩ := Option.map_eq_some_iff.1 taken
      cases same
      unfold assignmentLine at isLine
      obtain ⟨_, isAssignment, same⟩ := Option.bind_eq_some_iff.1 isLine
      obtain ⟨_, -, same⟩ := Option.bind_eq_some_iff.1 same
      cases same
      exact distinct_of_assignment (givesDistinct_value _) isAssignment

/-- What a run of lines assigns has distinct keys. -/
lemma distinct_of_mem_lines (s : List Char) : ∀ found ∈ (lines s).1, found.2.Distinct := by
  have each : ∀ item ∈ (Text.Step.many line s).1, ∀ found, item = some found →
      found.2.Distinct :=
    Text.Step.forall_mem_many (fun _ _ _ taken _ same => distinct_of_line (same ▸ taken)) s
  intro found among
  obtain ⟨item, isItem, same⟩ := List.mem_filterMap.1 among
  exact each item isItem found same

/-- What a section assigns has distinct keys. -/
lemma distinct_of_headed {s rest : List Char} {part : Section}
    (taken : headed s = some (part, rest)) : ∀ found ∈ part.assignments, found.2.Distinct := by
  unfold headed at taken
  obtain ⟨⟨_, below⟩, -, same⟩ := Option.bind_eq_some_iff.1 taken
  cases same
  exact distinct_of_mem_lines below

/-- One more section keeps keys distinct. -/
lemma distinct_of_addSection {draft after : Draft} {part : Section}
    (inside : ∀ found ∈ part.assignments, found.2.Distinct) (distinct : draft.Distinct)
    (added : addSection draft part = some after) : after.Distinct := by
  unfold addSection at added
  split at added
  · exact Draft.distinct_of_addElement inside distinct added
  · exact Draft.distinct_of_openTable inside distinct added

/-- Sections keep keys distinct. -/
lemma distinct_of_sections {draft after : Draft} {sections : List Section}
    (inside : ∀ part ∈ sections, ∀ found ∈ part.assignments, found.2.Distinct)
    (distinct : draft.Distinct) (added : sections.foldlM addSection draft = some after) :
    after.Distinct := by
  induction sections generalizing draft with
  | nil =>
      cases added
      exact distinct
  | cons part sections ih =>
      rw [List.forall_mem_cons] at inside
      obtain ⟨next, first, rest⟩ := Option.bind_eq_some_iff.1 added
      exact ih inside.2 (distinct_of_addSection inside.1 distinct first) rest

/-- **The table that a document stands for has distinct keys**, and so has every table in it. -/
theorem distinct_of_parse? {document : String} {entries : Entries}
    (isTree : parse? document = some entries) : (Value.table entries).Distinct := by
  unfold parse? at isTree
  dsimp only at isTree
  split at isTree
  · obtain ⟨top, isTop, isTree⟩ := Option.bind_eq_some_iff.1 isTree
    obtain ⟨whole, isWhole, same⟩ := Option.bind_eq_some_iff.1 isTree
    cases same
    have above := Draft.distinct_of_assignAll (distinct_of_mem_lines _) .nil isTop
    refine (distinct_of_sections ?_ above isWhole).finished
    exact Text.Step.forall_mem_many (fun _ _ _ => distinct_of_headed) _
  · cases isTree

end AppCatalog.Toml
