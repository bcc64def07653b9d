import Mathlib.Data.List.Nodup
import AppCatalog.Proofs.Toml.Reading
import AppCatalog.Settings.Decoding

/-!
# Layouts of settings

How chosen settings may be laid out in a document, and the table that a laid-out document stands
for.

* **A layout** (`Layout`) says for each part of the settings how it is written: key by key behind
  the name of the part, as a table between braces, or under a header. It lists what stands in front
  of the headers, and the headers with their keys, each in any order.
* **One clause more** (`assign_clause`, `addSection_headed`): while a document is assembled,
  the draft has a row for each part met so far, with the keys met so far.
* **The whole document** (`Layout.parse?_of_spells`) stands for a table with distinct parts that
  hold exactly the keys of the layout, with their chosen values.
-/

namespace AppCatalog.Settings

open Toml

/-! ## Keys and parts -/

/-- A part of the settings. -/
inductive Part where
  | server
  | database
  deriving Repr, DecidableEq

/-- A setting. -/
inductive Key where
  | bindAddress
  | port
  | backend
  | path
  | maxConnections
  | enableWal
  deriving Repr, DecidableEq

/-- The name of a part in a document. -/
def Part.name : Part → String
  | server => "server"
  | database => "database"

/-- The part that a setting belongs to. -/
def Key.part : Key → Part
  | bindAddress | port => .server
  | backend | path | maxConnections | enableWal => .database

/-- The name of a setting in its part. -/
def Key.name : Key → String
  | bindAddress => "bind_address"
  | port => "port"
  | backend => "backend"
  | path => "path"
  | maxConnections => "max_connections"
  | enableWal => "enable_wal"

/-- The value of a setting. -/
def Key.value (settings : Settings) : Key → Toml.Value
  | bindAddress => .text settings.server.bindAddress
  | port => .integer settings.server.port.toNat
  | backend => .text settings.database.backend
  | path => .text settings.database.path
  | maxConnections => .integer settings.database.maxConnections.toNat
  | enableWal => .boolean settings.database.enableWal

/-- Names tell parts apart. -/
lemma Part.name_inj {p q : Part} : p.name = q.name ↔ p = q := by
  cases p <;> cases q <;> decide

/-- Names tell settings apart. -/
lemma Key.name_inj {k l : Key} : k.name = l.name ↔ k = l := by
  cases k <;> cases l <;> decide

/-- Parts have bare names. -/
lemma Part.isBare_name (part : Part) : IsBare part.name := by
  cases part <;> decide

/-- Settings have bare names. -/
lemma Key.isBare_name (key : Key) : IsBare key.name := by
  cases key <;> decide

/-- The entries of a part that state these settings. -/
def stated (settings : Settings) (keys : List Key) : Entries :=
  keys.map fun key => (key.name, key.value settings)

/-- Settings that are stated once have distinct names. -/
lemma stated_distinct (settings : Settings) {keys : List Key} (distinct : keys.Nodup) :
    ((stated settings keys).map Prod.fst).Nodup := by
  unfold stated
  rw [List.map_map]
  exact List.Nodup.map (fun _ _ => Key.name_inj.1) distinct

/-! ## Layouts -/

/-- How a part of the settings is written. -/
inductive Form where
  /-- Key by key, each behind the name of the part. -/
  | dotted
  /-- As a table between braces. -/
  | braces
  /-- Under a header. -/
  | header
  deriving Repr, DecidableEq

/-- What may stand in front of the headers. -/
inductive Clause where
  /-- A setting behind the name of its part. -/
  | dotted (key : Key)
  /-- Settings of a part between braces. -/
  | braces (part : Part) (keys : List Key)
  deriving Repr, DecidableEq

/-- The settings that a clause states. -/
def Clause.keys : Clause → List Key
  | dotted key => [key]
  | braces _ keys => keys

/-- The part that a clause is about. -/
def Clause.part : Clause → Part
  | dotted key => key.part
  | braces part _ => part

/-- How a clause is written. -/
def Clause.form : Clause → Form
  | dotted _ => .dotted
  | braces .. => .braces

/-- The assignment that a clause is. -/
def Clause.entry (settings : Settings) : Clause → List String × Toml.Value
  | dotted key => ([key.part.name, key.name], key.value settings)
  | braces part keys => ([part.name], .table (stated settings keys))

/-- A part of the settings under a header, with the settings below it. -/
abbrev Headed : Type := Part × List Key

/-- The section of a document that a header and the settings below it are. -/
def Headed.section (settings : Settings) (headed : Headed) : Toml.Section :=
  ⟨false, [headed.1.name], asAssignments (stated settings headed.2)⟩

/-- How settings are laid out in a document. Each part is written in one form; a part that is
written as a whole is written once, and no setting is stated twice. -/
structure Layout where
  form : Part → Form
  /-- What stands in front of the headers. -/
  clauses : List Clause
  /-- The headers, with the settings below them. -/
  sections : List Headed
  clauses_form : ∀ clause ∈ clauses, form clause.part = clause.form
  clauses_placed : ∀ clause ∈ clauses, ∀ key ∈ clause.keys, key.part = clause.part
  clauses_once : ((clauses.filter (·.form = .braces)).map Clause.part).Nodup
  sections_form : ∀ headed ∈ sections, form headed.1 = .header
  sections_placed : ∀ headed ∈ sections, ∀ key ∈ headed.2, key.part = headed.1
  sections_once : (sections.map Prod.fst).Nodup
  distinct : (clauses.flatMap Clause.keys ++ sections.flatMap Prod.snd).Nodup

/-- The settings that a layout states. -/
def Layout.keys (layout : Layout) : List Key :=
  layout.clauses.flatMap Clause.keys ++ layout.sections.flatMap Prod.snd

/-! ## Assigning behind the name of a part -/

section Draft

variable {draft below : Draft} {outer inner : String}

/-- The first assignment behind a name makes a table. -/
lemma assign_pair_of_none (isNew : draft.lookup outer = none) (content : Toml.Value) :
    draft.assign [outer, inner] content =
      some (draft ++ [(outer, .table .dotted [(inner, .value content)])]) := by
  simp [Draft.assign, Draft.descend, isNew]

/-- A further assignment behind a name adds to the table that the first one made. -/
lemma assign_pair_of_table (isTable : draft.lookup outer = some (.table .dotted below))
    (isNew : below.lookup inner = none) (content : Toml.Value) :
    draft.assign [outer, inner] content =
      some (draft.replace outer (.table .dotted (below ++ [(inner, .value content)]))) := by
  simp [Draft.assign, Draft.descend, isTable, isNew]

/-- A header that is new opens a table behind the others. -/
lemma openTable_of_none (isNew : draft.lookup outer = none)
    {assignments : List (List String × Toml.Value)}
    (filled : Draft.assignAll [] assignments = some below) :
    draft.openTable [outer] assignments = some (draft ++ [(outer, .table .explicit below)]) := by
  have others : draft.erase outer = draft := by
    unfold Draft.erase
    rw [List.filter_eq_self]
    intro entry among
    have apart := List.lookup_eq_none_iff.1 isNew entry among
    rw [bne_iff_ne] at apart
    exact decide_eq_true apart.symm
  simp [Draft.openTable, Draft.descend, isNew, filled, others]

/-- Replacing changes one entry only. -/
lemma replace_append {before after : Draft} (notBefore : ∀ entry ∈ before, entry.1 ≠ outer)
    (notAfter : ∀ entry ∈ after, entry.1 ≠ outer) (old new : Toml.Node) :
    Draft.replace (before ++ (outer, old) :: after) outer new =
      before ++ (outer, new) :: after := by
  have stays : ∀ draft : Draft, (∀ entry ∈ draft, entry.1 ≠ outer) →
      (draft.map fun entry => if entry.1 = outer then (outer, new) else entry) = draft := by
    intro draft apart
    conv => rhs; rw [← List.map_id draft]
    exact List.map_congr_left fun entry among => if_neg (apart entry among)
  unfold Draft.replace
  rw [List.map_append, List.map_cons, stays before notBefore, stays after notAfter, if_pos rfl]

end Draft

/-! ## The draft of a laid-out document -/

/-- The settings met so far, part by part, with one setting more. -/
def addKey (key : Key) : List Headed → List Headed
  | [] => [(key.part, [key])]
  | row :: rows =>
    if row.1 = key.part then (row.1, row.2 ++ [key]) :: rows else row :: addKey key rows

/-- The settings met so far with those of a clause. -/
def Clause.addTo (rows : List Headed) : Clause → List Headed
  | dotted key => addKey key rows
  | braces part keys => rows ++ [(part, keys)]

/-- The parts in the order in which they are met, with their settings. -/
def Layout.rows (layout : Layout) : List Headed :=
  layout.clauses.foldl Clause.addTo [] ++ layout.sections

/-- A setting is put behind those of its part, or into a part of its own. -/
lemma addKey_cases (key : Key) (rows : List Headed) :
    key.part ∉ rows.map Prod.fst ∧ addKey key rows = rows ++ [(key.part, [key])] ∨
    ∃ before keys after, key.part ∉ before.map Prod.fst ∧
      rows = before ++ (key.part, keys) :: after ∧
      addKey key rows = before ++ (key.part, keys ++ [key]) :: after := by
  induction rows with
  | nil => exact .inl ⟨List.not_mem_nil, rfl⟩
  | cons row rows ih =>
      unfold addKey
      by_cases same : row.1 = key.part
      · rw [if_pos same]
        exact .inr ⟨[], row.2, rows, List.not_mem_nil, by rw [← same]; rfl, by rw [same]; rfl⟩
      · rw [if_neg same]
        have apart : key.part ≠ row.1 := fun eq => same eq.symm
        rcases ih with ⟨isNew, added⟩ | ⟨before, keys, after, notBefore, rows_eq, added⟩
        · refine .inl ⟨?_, by rw [added]; rfl⟩
          rw [List.map_cons, List.mem_cons]
          exact not_or.2 ⟨apart, isNew⟩
        · refine .inr ⟨row :: before, keys, after, ?_, by rw [rows_eq]; rfl, by rw [added]; rfl⟩
          rw [List.map_cons, List.mem_cons]
          exact not_or.2 ⟨apart, notBefore⟩

section Clauses

variable {rows : List Headed} (clause : Clause)

/-- The settings of a clause are put behind those of its part, or into a part of their own. -/
lemma addTo_cases (rows : List Headed) :
    (clause.form = .dotted → clause.part ∉ rows.map Prod.fst) ∧
        clause.addTo rows = rows ++ [(clause.part, clause.keys)] ∨
      ∃ before keys after, rows = before ++ (clause.part, keys) :: after ∧
        clause.addTo rows = before ++ (clause.part, keys ++ clause.keys) :: after := by
  cases clause with
  | braces part keys => exact .inl ⟨nofun, rfl⟩
  | dotted key =>
      rcases addKey_cases key rows with ⟨newPart, added⟩ | ⟨before, keys, after, -, rows_eq, added⟩
      · exact .inl ⟨fun _ => newPart, added⟩
      · exact .inr ⟨before, keys, after, rows_eq, added⟩

/-- The settings that were met are those from before and those of the clause. -/
lemma mem_keys_addTo {key : Key} : key ∈ (clause.addTo rows).flatMap Prod.snd ↔
    key ∈ rows.flatMap Prod.snd ∨ key ∈ clause.keys := by
  rcases addTo_cases clause rows with ⟨-, added⟩ | ⟨before, keys, after, rfl, added⟩
  · rw [added, List.flatMap_append, List.mem_append, List.flatMap_singleton]
  · rw [added]
    simp only [List.flatMap_append, List.flatMap_cons, List.mem_append]
    tauto

/-- The parts that were met are those from before and that of the clause. -/
lemma mem_parts_addTo {part : Part} : part ∈ (clause.addTo rows).map Prod.fst ↔
    part ∈ rows.map Prod.fst ∨ part = clause.part := by
  rcases addTo_cases clause rows with ⟨-, added⟩ | ⟨before, keys, after, rfl, added⟩
  · rw [added, List.map_append, List.mem_append, List.map_singleton, List.mem_singleton]
  · rw [added]
    simp only [List.map_append, List.map_cons, List.mem_append, List.mem_cons]
    tauto

/-- Settings stay with their part. -/
lemma placed_addTo (placed : ∀ key ∈ clause.keys, key.part = clause.part)
    (placedBefore : ∀ row ∈ rows, ∀ key ∈ row.2, key.part = row.1) :
    ∀ row ∈ clause.addTo rows, ∀ key ∈ row.2, key.part = row.1 := by
  rcases addTo_cases clause rows with ⟨-, added⟩ | ⟨before, keys, after, rfl, added⟩
  · rw [added]
    exact List.forall_mem_append.2 ⟨placedBefore, List.forall_mem_singleton.2 placed⟩
  · rw [added]
    rw [List.forall_mem_append, List.forall_mem_cons] at placedBefore ⊢
    obtain ⟨inBefore, inPart, inAfter⟩ := placedBefore
    exact ⟨inBefore, List.forall_mem_append.2 ⟨inPart, placed⟩, inAfter⟩

/-- Parts stay distinct if a part between braces is new. -/
lemma distinct_addTo (distinct : (rows.map Prod.fst).Nodup)
    (isNew : clause.form = .braces → clause.part ∉ rows.map Prod.fst) :
    ((clause.addTo rows).map Prod.fst).Nodup := by
  rcases addTo_cases clause rows with ⟨newPart, added⟩ | ⟨before, keys, after, rfl, added⟩
  · have notAmong : clause.part ∉ rows.map Prod.fst := by
      cases clause with
      | dotted key => exact newPart rfl
      | braces part keys => exact isNew rfl
    rw [added, List.map_append]
    exact List.Nodup.append distinct (List.nodup_singleton _)
      (List.disjoint_singleton.2 notAmong)
  · rw [added, List.map_append, List.map_cons]
    rwa [List.map_append, List.map_cons] at distinct

variable (clauses : List Clause)

/-- The settings that were met are those of the clauses. -/
lemma mem_keys_foldl {key : Key} : key ∈ (clauses.foldl Clause.addTo []).flatMap Prod.snd ↔
    key ∈ clauses.flatMap Clause.keys := by
  induction clauses using List.reverseRecOn with
  | nil => exact Iff.rfl
  | append_singleton clauses clause ih =>
      rw [List.foldl_append, List.foldl_cons, List.foldl_nil, mem_keys_addTo, ih,
        List.flatMap_append, List.mem_append, List.flatMap_singleton]

/-- The parts that were met are those of the clauses. -/
lemma mem_parts_foldl {part : Part} : part ∈ (clauses.foldl Clause.addTo []).map Prod.fst ↔
    part ∈ clauses.map Clause.part := by
  induction clauses using List.reverseRecOn with
  | nil => exact Iff.rfl
  | append_singleton clauses clause ih =>
      rw [List.foldl_append, List.foldl_cons, List.foldl_nil, mem_parts_addTo, ih, List.map_append,
        List.mem_append, List.map_singleton, List.mem_singleton]

/-- Settings that were met are in their part. -/
lemma placed_foldl (placed : ∀ clause ∈ clauses, ∀ key ∈ clause.keys, key.part = clause.part) :
    ∀ row ∈ clauses.foldl Clause.addTo [], ∀ key ∈ row.2, key.part = row.1 := by
  induction clauses using List.reverseRecOn with
  | nil => exact List.forall_mem_nil _
  | append_singleton clauses clause ih =>
      rw [List.forall_mem_append, List.forall_mem_singleton] at placed
      rw [List.foldl_append, List.foldl_cons, List.foldl_nil]
      exact placed_addTo clause placed.2 (ih placed.1)

/-- A part between braces that is written once is new where it stands. -/
lemma notMem_of_once {clause : Clause} {form : Part → Form}
    (inForm : ∀ other ∈ clauses ++ [clause], form other.part = other.form)
    (once : (((clauses ++ [clause]).filter (·.form = .braces)).map Clause.part).Nodup)
    (isBraces : clause.form = .braces) : clause.part ∉ clauses.map Clause.part := by
  intro among
  obtain ⟨other, isOther, same⟩ := List.mem_map.1 among
  have otherBraces : other.form = .braces := by
    rw [← inForm other (List.mem_append_left _ isOther), same,
      inForm clause (List.mem_append_right _ List.mem_cons_self), isBraces]
  rw [List.filter_append, List.map_append, List.nodup_append] at once
  refine once.2.2 other.part ?_ clause.part ?_ same
  · exact List.mem_map_of_mem (List.mem_filter.2 ⟨isOther, decide_eq_true otherBraces⟩)
  · exact List.mem_map_of_mem (List.mem_filter.2 ⟨List.mem_cons_self, decide_eq_true isBraces⟩)

/-- Distinct parts were met. -/
lemma distinct_foldl {form : Part → Form}
    (inForm : ∀ clause ∈ clauses, form clause.part = clause.form)
    (once : ((clauses.filter (·.form = .braces)).map Clause.part).Nodup) :
    ((clauses.foldl Clause.addTo []).map Prod.fst).Nodup := by
  induction clauses using List.reverseRecOn with
  | nil => exact List.nodup_nil
  | append_singleton clauses clause ih =>
      have newPart := notMem_of_once clauses inForm once
      rw [List.filter_append, List.map_append] at once
      rw [List.forall_mem_append] at inForm
      rw [List.foldl_append, List.foldl_cons, List.foldl_nil]
      refine distinct_addTo clause (ih inForm.1 once.of_append_left) fun isBraces => ?_
      rw [mem_parts_foldl]
      exact newPart isBraces

end Clauses

/-- The node that a part is while a document is assembled. -/
def Form.node (entries : Entries) : Form → Toml.Node
  | dotted => .table .dotted (entries.map fun entry => (entry.1, .value entry.2))
  | braces => .value (.table entries)
  | header => .table .explicit (entries.map fun entry => (entry.1, .value entry.2))

/-- In the end every part is a table. -/
lemma Form.finished_node (entries : Entries) (form : Form) :
    (form.node entries).finished = .table entries := by
  cases form with
  | braces => rfl
  | dotted => exact congrArg Toml.Value.table (finishedEntries_values entries)
  | header => exact congrArg Toml.Value.table (finishedEntries_values entries)

section Draft

variable (settings : Settings) (form : Part → Form)

/-- The draft that holds these parts. -/
def draftOf (rows : List Headed) : Draft :=
  rows.map fun row => (row.1.name, (form row.1).node (stated settings row.2))

variable {rows : List Headed}

/-- The entries of a draft have the names of its parts. -/
lemma ne_of_mem_draftOf {part : Part} (notAmong : part ∉ rows.map Prod.fst) :
    ∀ entry ∈ draftOf settings form rows, entry.1 ≠ part.name := by
  rintro entry among same
  obtain ⟨row, isRow, rfl⟩ := List.mem_map.1 among
  rw [← Part.name_inj.1 same] at notAmong
  exact notAmong (List.mem_map_of_mem isRow)

/-- A part that was not met is not in the draft. -/
lemma lookup_draftOf_eq_none {part : Part} (isNew : part ∉ rows.map Prod.fst) :
    (draftOf settings form rows).lookup part.name = none := by
  rw [List.lookup_eq_none_iff]
  intro entry among
  rw [bne_iff_ne]
  exact (ne_of_mem_draftOf settings form isNew entry among).symm

/-- A setting that was not stated is not among those that were. -/
lemma lookup_stated_eq_none {key : Key} {keys : List Key} (isNew : key ∉ keys) :
    List.lookup key.name
        ((stated settings keys).map fun entry => (entry.1, Toml.Node.value entry.2)) =
      none := by
  rw [List.lookup_eq_none_iff]
  intro entry among
  simp only [stated, List.map_map, List.mem_map, Function.comp_apply] at among
  obtain ⟨other, isOther, rfl⟩ := among
  rw [bne_iff_ne]
  intro same
  rw [Key.name_inj.1 same] at isNew
  exact isNew isOther

/-- **A dotted key adds its setting** to the draft. -/
lemma assign_dotted {key : Key} (isDotted : form key.part = .dotted)
    (distinct : (rows.map Prod.fst).Nodup) (isNew : key ∉ rows.flatMap Prod.snd) :
    (draftOf settings form rows).assign [key.part.name, key.name] (key.value settings) =
      some (draftOf settings form (addKey key rows)) := by
  rcases addKey_cases key rows with ⟨newPart, added⟩ | ⟨before, keys, after, notBefore, rfl, added⟩
  · rw [assign_pair_of_none (lookup_draftOf_eq_none settings form newPart), added]
    unfold draftOf
    rw [List.map_append, List.map_singleton, isDotted]
    rfl
  · have notAfter : key.part ∉ after.map Prod.fst := by
      rw [List.map_append, List.nodup_append] at distinct
      exact (List.nodup_cons.1 distinct.2.1).1
    have notStated : key ∉ keys := fun among => isNew (List.mem_flatMap.2
      ⟨_, List.mem_append_right _ List.mem_cons_self, among⟩)
    have split : ∀ keys, draftOf settings form (before ++ (key.part, keys) :: after) =
        draftOf settings form before ++
          (key.part.name, Form.node (stated settings keys) .dotted) ::
            draftOf settings form after := by
      intro keys
      unfold draftOf
      rw [List.map_append, List.map_cons, isDotted]
    have found :
        (draftOf settings form (before ++ (key.part, keys) :: after)).lookup key.part.name =
          some (Form.node (stated settings keys) .dotted) := by
      rw [split, List.lookup_append, lookup_draftOf_eq_none settings form notBefore,
        List.lookup_cons_self]
      rfl
    rw [assign_pair_of_table found (lookup_stated_eq_none settings notStated), added, split, split,
      replace_append (ne_of_mem_draftOf settings form notBefore)
        (ne_of_mem_draftOf settings form notAfter)]
    simp only [Form.node, stated, List.map_append, List.map_singleton]

/-- **A clause adds its settings** to the draft. -/
lemma assign_clause {clause : Clause} (inForm : form clause.part = clause.form)
    (distinct : (rows.map Prod.fst).Nodup)
    (newPart : clause.form = .braces → clause.part ∉ rows.map Prod.fst)
    (newKeys : ∀ key ∈ clause.keys, key ∉ rows.flatMap Prod.snd) :
    (draftOf settings form rows).assign (clause.entry settings).1 (clause.entry settings).2 =
      some (draftOf settings form (clause.addTo rows)) := by
  cases clause with
  | dotted key =>
      exact assign_dotted settings form inForm distinct (newKeys key List.mem_cons_self)
  | braces part keys =>
      have isNew := lookup_draftOf_eq_none settings form (newPart rfl)
      have isBraces : form part = .braces := inForm
      show (draftOf settings form rows).assign [part.name] _ = _
      rw [Clause.part] at isNew
      rw [assign_single isNew]
      unfold Clause.addTo draftOf
      rw [List.map_append, List.map_singleton, isBraces]
      rfl

/-- **A header and its lines add a part** to the draft. -/
lemma addSection_headed {headed : Headed} (inForm : form headed.1 = .header)
    (newPart : headed.1 ∉ rows.map Prod.fst) (distinct : headed.2.Nodup) :
    addSection (draftOf settings form rows) (headed.section settings) =
      some (draftOf settings form (rows ++ [headed])) := by
  have filled := assignAll_single (stated_distinct settings distinct) [] fun _ _ => rfl
  show (draftOf settings form rows).openTable [headed.1.name]
    (asAssignments (stated settings headed.2)) = _
  rw [openTable_of_none (lookup_draftOf_eq_none settings form newPart) filled]
  unfold draftOf
  rw [List.map_append, List.map_singleton, inForm]
  rfl

/-- All clauses together make the draft of what they state. -/
lemma assignAll_clauses {clauses : List Clause}
    (inForm : ∀ clause ∈ clauses, form clause.part = clause.form)
    (once : ((clauses.filter (·.form = .braces)).map Clause.part).Nodup)
    (distinct : (clauses.flatMap Clause.keys).Nodup) :
    Draft.assignAll [] (clauses.map (Clause.entry settings)) =
      some (draftOf settings form (clauses.foldl Clause.addTo [])) := by
  induction clauses using List.reverseRecOn with
  | nil => rfl
  | append_singleton clauses clause ih =>
      have newPart := notMem_of_once clauses inForm once
      rw [List.filter_append, List.map_append] at once
      rw [List.flatMap_append, List.flatMap_singleton, List.nodup_append] at distinct
      rw [List.forall_mem_append, List.forall_mem_singleton] at inForm
      have before := ih inForm.1 once.of_append_left distinct.1
      unfold Draft.assignAll at before ⊢
      rw [List.map_append, List.foldlM_append, before, List.foldl_append]
      show (Draft.assign _ (clause.entry settings).1 (clause.entry settings).2).bind some = _
      rw [assign_clause settings form inForm.2
        (distinct_foldl clauses inForm.1 once.of_append_left)]
      · rfl
      · intro isBraces
        rw [mem_parts_foldl]
        exact newPart isBraces
      · intro key among
        rw [mem_keys_foldl]
        exact fun early => distinct.2.2 key early key among rfl

/-- All sections together add their parts to the draft. -/
lemma foldlM_sections {sections : List Headed}
    (inForm : ∀ headed ∈ sections, form headed.1 = .header)
    (distinct : ∀ headed ∈ sections, headed.2.Nodup)
    (newParts : ((rows ++ sections).map Prod.fst).Nodup) :
    (sections.map (Headed.section settings)).foldlM addSection (draftOf settings form rows) =
      some (draftOf settings form (rows ++ sections)) := by
  induction sections generalizing rows with
  | nil =>
      rw [List.append_nil]
      rfl
  | cons headed sections ih =>
      rw [List.forall_mem_cons] at inForm distinct
      have newPart : headed.1 ∉ rows.map Prod.fst := by
        rw [List.map_append, List.nodup_append] at newParts
        exact fun among => newParts.2.2 _ among _ List.mem_cons_self rfl
      rw [List.append_cons] at newParts ⊢
      rw [List.map_cons, List.foldlM_cons,
        addSection_headed settings form inForm.1 newPart distinct.1]
      exact ih inForm.2 distinct.2 newParts

/-- In the end the parts of a draft are tables. -/
lemma finishedEntries_draftOf (rows : List Headed) :
    finishedEntries (draftOf settings form rows) =
      rows.map fun row => (row.1.name, .table (stated settings row.2)) := by
  induction rows with
  | nil => rfl
  | cons row rows ih =>
      show (row.1.name, ((form row.1).node (stated settings row.2)).finished) ::
        finishedEntries (draftOf settings form rows) = _
      rw [Form.finished_node, ih, List.map_cons]

end Draft

/-! ## The table of a laid-out document -/

namespace Layout

variable (layout : Layout)

/-- The parts of a layout are distinct. -/
lemma rows_distinct : (layout.rows.map Prod.fst).Nodup := by
  unfold rows
  rw [List.map_append]
  refine List.Nodup.append (distinct_foldl _ layout.clauses_form layout.clauses_once)
    layout.sections_once ?_
  intro part inFront below
  rw [mem_parts_foldl] at inFront
  obtain ⟨clause, isClause, rfl⟩ := List.mem_map.1 inFront
  obtain ⟨headed, isHeaded, same⟩ := List.mem_map.1 below
  have inForm := layout.clauses_form clause isClause
  rw [← same, layout.sections_form headed isHeaded] at inForm
  cases clause <;> cases inForm

/-- The settings of each part belong to it. -/
lemma rows_placed : ∀ row ∈ layout.rows, ∀ key ∈ row.2, key.part = row.1 :=
  List.forall_mem_append.2 ⟨placed_foldl _ layout.clauses_placed, layout.sections_placed⟩

/-- The parts hold the settings that the layout states, and no others. -/
lemma mem_rows {key : Key} : key ∈ layout.rows.flatMap Prod.snd ↔ key ∈ layout.keys := by
  unfold rows keys
  rw [List.flatMap_append, List.mem_append, List.mem_append, mem_keys_foldl]

/-- Whether characters spell the document of a layout that states these settings. -/
def Spells (settings : Settings) (written : List Char) : Prop :=
  SpellsDocument (layout.clauses.map (Clause.entry settings))
    (layout.sections.map (Headed.section settings)) written

/-- **A laid-out document stands for its parts**: a table for each, in the order in which they are
met, with the settings that the layout states there. -/
lemma parse?_of_spells {settings : Settings} {document : String}
    (spells : layout.Spells settings document.toList) :
    parse? document =
      some (layout.rows.map fun row => (row.1.name, .table (stated settings row.2))) := by
  have distinct := List.nodup_append.1 layout.distinct
  have each : ∀ headed ∈ layout.sections, headed.2.Nodup :=
    fun headed among => (List.nodup_flatMap.1 distinct.2.1).1 headed among
  rw [Toml.parse?_of_spells spells, assignAll_clauses settings layout.form layout.clauses_form
    layout.clauses_once distinct.1, Option.bind_some,
    foldlM_sections settings layout.form layout.sections_form each layout.rows_distinct]
  exact congrArg some (finishedEntries_draftOf settings layout.form layout.rows)

end Layout

end AppCatalog.Settings
