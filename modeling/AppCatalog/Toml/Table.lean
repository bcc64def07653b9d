import AppCatalog.Toml.Value

/-!
# Assembling tables

A document says piece by piece what its tables hold: an assignment puts a value under a dotted
key, a header opens a table under a path, a double header adds one to an array of tables. While
a table is being assembled it remembers how it came about, since that decides who may still add
to it: a table opened by a header is closed to dotted keys and to a second header.
-/

namespace AppCatalog.Toml

/-- How a table under assembly came about. -/
inductive Origin where
  /-- Opened by a header or given as a whole. -/
  | explicit
  /-- Made on the way to a table that a header opens. -/
  | implied
  /-- Made on the way to a key that an assignment sets. -/
  | dotted
  deriving Repr, DecidableEq

/-- An entry under assembly. -/
inductive Node where
  | value (value : Value)
  | table (origin : Origin) (entries : List (String × Node))
  /-- An array of tables, of which the last one is open. -/
  | tables (elements : List (List (String × Node)))

/-- The entries of a table under assembly, in order. -/
abbrev Draft : Type := List (String × Node)

namespace Draft

/-- The draft with the entry of that key replaced. -/
def replace (draft : Draft) (key : String) (node : Node) : Draft :=
  draft.map fun entry => if entry.1 = key then (key, node) else entry

/-- The draft without the entry of that key. -/
def erase (draft : Draft) (key : String) : Draft :=
  draft.filter (·.1 ≠ key)

/-- Changes the table at the end of a path, making the tables on the way with the given origin
where there are none. A dotted way may not pass a table that a header has opened. -/
def descend (origin : Origin) (change : Origin → Draft → Option Draft) :
    (path : List String) → (current : Origin) → Draft → Option Draft
  | [], current, draft => change current draft
  | key :: path, _, draft =>
    match draft.lookup key with
    | none =>
      (descend origin change path origin []).map fun below =>
        draft ++ [(key, .table origin below)]
    | some (.table kind below) =>
      if origin = .dotted ∧ kind = .explicit then none
      else
        (descend origin change path kind below).map fun below =>
          draft.replace key (.table kind below)
    | some (.tables elements) =>
      match elements.getLast? with
      | none => none
      | some last =>
        (descend origin change path .explicit last).map fun last =>
          draft.replace key (.tables (elements.dropLast ++ [last]))
    | some (.value _) => none

/-- Puts a value under a dotted key. The table that takes it is the one at hand or one that
dotted keys have made, and has no such key yet. -/
def assign (draft : Draft) (path : List String) (value : Value) : Option Draft :=
  let way := path.dropLast
  let change (kind : Origin) (draft : Draft) : Option Draft :=
    match path.getLast? with
    | none => none
    | some key =>
      if way ≠ [] ∧ kind ≠ .dotted then none
      else if (draft.lookup key).isSome then none
      else some (draft ++ [(key, .value value)])
  descend .dotted change way .explicit draft

/-- Puts a list of values under their dotted keys, one after the other. -/
def assignAll (draft : Draft) (assignments : List (List String × Value)) : Option Draft :=
  assignments.foldlM (fun draft (path, value) => draft.assign path value) draft

/-- Opens a table under a path and fills it. A table that was only implied keeps what it has
and moves behind the other entries. -/
def openTable (draft : Draft) (path : List String)
    (assignments : List (List String × Value)) : Option Draft :=
  let change (_ : Origin) (draft : Draft) : Option Draft :=
    match path.getLast? with
    | none => none
    | some key =>
      let filled (below : Draft) : Option Draft :=
        (below.assignAll assignments).map fun below =>
          draft.erase key ++ [(key, .table .explicit below)]
      match draft.lookup key with
      | none => filled []
      | some (.table .implied below) => filled below
      | some _ => none
  descend .implied change path.dropLast .explicit draft

/-- Adds a table to the array of tables under a path and fills it. -/
def addElement (draft : Draft) (path : List String)
    (assignments : List (List String × Value)) : Option Draft :=
  let change (_ : Origin) (draft : Draft) : Option Draft :=
    match path.getLast? with
    | none => none
    | some key =>
      match draft.lookup key with
      | none =>
        (assignAll [] assignments).map fun element => draft ++ [(key, .tables [element])]
      | some (.tables elements) =>
        (assignAll [] assignments).map fun element =>
          draft.replace key (.tables (elements ++ [element]))
      | some _ => none
  descend .implied change path.dropLast .explicit draft

end Draft

/-! ## Finished values -/

mutual

/-- The value that an entry has when the document ends. -/
def Node.finished : Node → Value
  | .value value => value
  | .table _ entries => .table (finishedEntries entries)
  | .tables elements => .array (finishedElements elements)

/-- The entries of a finished table. -/
def finishedEntries : List (String × Node) → List (String × Value)
  | [] => []
  | (key, node) :: entries => (key, node.finished) :: finishedEntries entries

/-- The tables of a finished array of tables. -/
def finishedElements : List (List (String × Node)) → List Value
  | [] => []
  | element :: elements => .table (finishedEntries element) :: finishedElements elements

end

/-- The table that assignments alone make, as between braces. -/
def inlineTable? (assignments : List (List String × Value)) : Option Value :=
  (Draft.assignAll [] assignments).map fun draft => .table (finishedEntries draft)

end AppCatalog.Toml
