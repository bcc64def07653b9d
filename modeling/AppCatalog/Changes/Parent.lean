import AppCatalog.Changes.Constraint

/-!
# References between tables

A row may have to refer to a row of another table, by the number of that row or by a key on which
the rows there are unique. Without a value in one of its columns a reference asks for nothing, and
a row may refer to itself.

A statement keeps account of references that lead nowhere: whatever comes or goes on either side
makes them more or fewer, and in the end there may be none. Only a statement that does nothing but
store a single row fails at once.
-/

namespace AppCatalog

/-- What a reference leads to: the key of an index, or the number of a row. -/
structure ParentKey where
  index? : Option Index
  /-- The places of the columns of the reference, in the order of the key. -/
  columns : List Nat

namespace ForeignKey

/-- What a reference leads to in a table: the number of its rows, or the key of an index on which
they are unique and texts are in the order of their columns. -/
def target? (reference : ForeignKey) (parent : Table) : Option ParentKey :=
  let nameAt (n : Nat) : String := (parent.columns[n]?.map Column.name).getD ""
  let isRowid := reference.columns.length = 1 && parent.rowidColumn?.any fun n =>
    reference.parents.all (Table.sameName (nameAt n))
  if isRowid then some { index? := none, columns := reference.columns }
  else
    let columnFor? (column : IndexColumn) : Option Nat := do
      let n ← column.item.column?
      let own ← parent.columns[n]?
      if own.collation ≠ column.key.collation then none
      let place ← reference.parents.findIdx? (Table.sameName (nameAt n))
      reference.columns[place]?
    parent.indexes.findSome? fun index =>
      if index.keyWidth = reference.columns.length && index.isUnique &&
          index.condition?.isNone then
        if reference.parents.isEmpty then
          if index.isPrimaryKey then some { index? := index, columns := reference.columns }
          else none
        else (index.keyColumns.mapM columnFor?).map ({ index? := index, columns := · })
      else none

/-- What is said of a reference to something that is no key. -/
def mismatch (reference : ForeignKey) (child : Table) : SqlError :=
  .senseless ("foreign key mismatch - \"" ++ child.name ++ "\" referencing \""
    ++ reference.table ++ "\"")

/-- The table to which a reference leads, and to what in it. -/
def parent (reference : ForeignKey) (schema : Schema) (child : Table) :
    Except SqlError (Table × ParentKey) :=
  match schema.table? reference.table with
  | none => .error (.noSuchTable ("main." ++ reference.table))
  | some parent =>
    match reference.target? parent with
    | some target => .ok (parent, target)
    | none => .error (reference.mismatch child)

/-- Whether a change concerns the columns of a reference. -/
def isAlteredIn (reference : ForeignKey) (child : Table) (change : Alteration) : Bool :=
  reference.columns.any (child.isAltered change)

/-- Whether a change concerns what a reference leads to. -/
def isAlteredAt (reference : ForeignKey) (parent : Table) (change : Alteration) : Bool :=
  parent.columns.zipIdx.any fun (column, n) =>
    parent.isAltered change n &&
      if reference.parents.isEmpty then column.isKey || parent.rowidColumn? = some n
      else reference.parents.any (Table.sameName column.name)

end ForeignKey

namespace ParentKey

/-- The places of the columns of the key in the table. -/
def places (target : ParentKey) (parent : Table) : List Nat :=
  match target.index? with
  | none => parent.rowidColumn?.toList
  | some index => index.keyColumns.filterMap (·.item.column?)

/-- Whether there is the row to which a row with a reference refers. One that is about to be stored
may refer to itself. -/
def isMet (target : ParentKey) (encoding : Encoding) (parent : Table) (mayBeSelf : Bool)
    (row : StoredRow) : Run Bool := do
  let values := target.columns.map (row.values.getD · .null)
  if values.any Value.isNull then return true
  match target.index? with
  | none =>
    match (values.head?).bind (Table.rowidOf? encoding) with
    | none => return false
    | some rowid =>
      if mayBeSelf && row.rowid? = some rowid then return true
      let (_, order) ← (parent.cursor.seek rowid : Volume.Act _)
      return order = .eq
  | some index =>
    let places := target.places parent
    let own := places.map (row.values.getD · .null)
    let isOwn := (own.zip values).all fun (a, b) =>
      !a.isNull && a.compareTo encoding .binary b = .eq
    if mayBeSelf && isOwn then return true
    let affinities := places.map fun n => ((parent.columns[n]?).map Column.affinity).getD .blob
    let values := affinities.zipWith (fun affinity value => affinity.apply encoding value) values
    let cursor ← (Volume.openIndex index : Volume.Act Cursor)
    let key : Key := { order := Table.keyOrder encoding index, values }
    return (← (cursor.seekRecord key.probe : Volume.Act _)).order = .eq

/-- Whether a row with a reference refers to a row. -/
def isFrom (target : ParentKey) (encoding : Encoding) (parent child : Table) (row : StoredRow)
    (other : StoredRow) : Bool :=
  ((target.places parent).zip target.columns).all fun (n, m) =>
    match parent.columns[n]?, child.columns[m]? with
    | some wanted, some own =>
      let isRowid := parent.rowidColumn? = some n
      let affinity := if isRowid then .integer else wanted.affinity
      let a := row.values.getD n .null
      let b := other.values.getD m .null
      !a.isNull && !b.isNull &&
        Affinity.compareValues (Affinity.ofComparison (some affinity) (some own.affinity)) encoding
          (if isRowid then .binary else wanted.collation) a b = .eq
    | _, _ => false

/-- Whether two rows of a table are the same one. -/
def isSame (target : ParentKey) (encoding : Encoding) (table : Table) (a b : StoredRow) : Bool :=
  if table.hasRowid then a.rowid? = b.rowid?
  else (target.places table).all fun n =>
    (a.values.getD n .null).compareTo encoding .binary (b.values.getD n .null) = .eq

end ParentKey

namespace Schema

/-- The references that lead to a table, the tables that have them, the newest first, and their
places there. -/
def placedReferencesTo (schema : Schema) (table : Table) : List (Table × ForeignKey × Nat) :=
  (schema.tables.reverse.flatMap fun child => child.foreignKeys.zipIdx.map (child, ·)).filter
    fun (_, reference, _) => Table.sameName reference.table table.name

/-- The references that lead to a table, and the tables that have them, the newest first. -/
def referencesTo (schema : Schema) (table : Table) : List (Table × ForeignKey) :=
  (schema.placedReferencesTo table).map fun (child, reference, _) => (child, reference)

/-- Whether there are references that rows of a table have, or that lead to them. -/
def isTied (schema : Schema) (table : Table) : Bool :=
  !table.foreignKeys.isEmpty || !(schema.referencesTo table).isEmpty

/-- Whether a change concerns references. -/
def isTiedBy (schema : Schema) (table : Table) (change : Alteration) : Bool :=
  table.foreignKeys.any (·.isAlteredIn table change) ||
    (schema.referencesTo table).any fun (_, reference) => reference.isAlteredAt table change

end Schema

/-- How a statement keeps account of references. -/
structure Account where
  schema : Schema
  /-- Whether the statement does nothing but store a single row. -/
  isSingle : Bool := false
  /-- Whether references that make no sense are passed over. -/
  isLenient : Bool := false

namespace Account

/-- Takes down that so many more references lead nowhere. -/
def note (reference : ForeignKey) (count : Int) : Run Unit :=
  modifyThe Progress fun progress =>
    let loose := progress.loose
    { progress with
      loose := if reference.isDeferred then { loose with late := loose.late + count }
        else { loose with now := loose.now + count } }

/-- Whether there are references that lead nowhere, of those that are checked together. -/
def isOpen (reference : ForeignKey) : Run Bool := do
  let loose := (← getThe Progress).loose
  return (if reference.isDeferred then loose.late else loose.now) ≠ 0

/-- The references of a table that are looked at when a row of it comes, goes or changes. -/
def ownReferences (table : Table) (change? : Option Alteration) : List ForeignKey :=
  table.foreignKeys.filter fun reference =>
    change?.all fun change =>
      Table.sameName reference.table table.name || reference.isAlteredIn table change

/-- The references to a table that are looked at when a row of it comes, goes or changes. A single
row that is stored cannot make anything worse. -/
def othersReferences (account : Account) (table : Table) (change? : Option Alteration) :
    List (Table × ForeignKey) :=
  (account.schema.referencesTo table).filter fun (_, reference) =>
    (reference.isDeferred || !account.isSingle) && change?.all (reference.isAlteredAt table)

/-- Whether references are looked at at all when a row changes. -/
def isAsked (account : Account) (table : Table) (change? : Option Alteration) : Bool :=
  change?.all (account.schema.isTiedBy table)

/-- Checks that the references make sense that are looked at when a row comes, goes or changes. -/
def check (account : Account) (table : Table) (change? : Option Alteration) :
    Except SqlError Unit := do
  if account.isAsked table change? then
    for reference in ownReferences table change? do
      discard (reference.parent account.schema table)
    for (child, reference) in account.othersReferences table change? do
      if (reference.target? table).isNone then throw (reference.mismatch child)

/-- Keeps account of a row that comes or goes. -/
def tally (account : Account) (table : Table) (change? : Option Alteration) (row : StoredRow)
    (comes : Bool) : Run Unit := do
  if account.isAsked table change? then
    let schema := account.schema
    for reference in ownReferences table change? do
      match reference.parent schema table with
      | .error cause => unless account.isLenient do Run.fail cause
      | .ok (parent, target) =>
        let isLooked ← if comes then pure true else isOpen reference
        if isLooked then
          let mayBeSelf := comes && Table.sameName parent.name table.name
          unless ← target.isMet schema.encoding parent mayBeSelf row do
            if account.isSingle && !reference.isDeferred then
              Run.fail (.violated .foreignKey "")
            note reference (if comes then 1 else -1)
    for (child, reference) in account.othersReferences table change? do
      match reference.target? table with
      | none => unless account.isLenient do Run.fail (reference.mismatch child)
      | some target =>
        let isLooked ← if comes then isOpen reference else pure true
        if isLooked then
          let rows ← child.allRows schema.encoding
          let isSelf := !comes && Table.sameName child.name table.name
          let found := rows.filter fun other =>
            target.isFrom schema.encoding table child row other &&
              !(isSelf && target.isSame schema.encoding table row other)
          note reference (if comes then -found.length else found.length)

end Account

/-! ## What follows -/

namespace ForeignKey

/-- All conditions at once; none if there are no conditions. -/
def allOf? : List Expression → Option Expression
  | [] => none
  | first :: rest => some (rest.foldl (.binary .and) first)

/-- What is said of a row that is referred to and must stay. -/
def restrictedText : String := "FOREIGN KEY constraint failed"

/-- What happens to rows with a reference when the row goes away to which they refer, or when its
key changes: a trigger that nobody wrote. -/
def follow? (reference : ForeignKey) (child parent : Table) (event : TriggerEvent) :
    Option Trigger := do
  let isUpdate := match event with
    | .update _ => true
    | _ => false
  let what ← if isUpdate then reference.followUps.onUpdate? else reference.followUps.onDelete?
  let target ← reference.target? parent
  let nameIn (table : Table) (n : Nat) : String := (table.columns[n]?.map Column.name).getD ""
  let pairs := ((target.places parent).map (nameIn parent)).zip target.columns
  let old (name : String) : Expression := .column (some "old") name false
  let new (name : String) : Expression := .column (some "new") name false
  let own (m : Nat) : Expression := .column none (nameIn child m) false
  let isChild := allOf? (pairs.map fun (name, m) => .binary .eq (old name) (own m))
  let isKept := allOf? (pairs.map fun (name, _) => .binary .is (old name) (new name))
  let assigned (value : String → Nat → Expression) : TriggerStep :=
    .update none child.name (pairs.map fun (name, m) => ⟨[nameIn child m], value name m⟩) []
      isChild
  let default (m : Nat) : Expression := ((child.columns[m]?).bind Column.default?).getD .null
  let step : TriggerStep := match what with
    | .restrict =>
      .select (.plain false [.value (.raise .abort restrictedText) none ""]
        [.mk (.table none child.name none) none {} none none] isChild [] none [])
    | .cascade => if isUpdate then assigned fun name _ => new name else .delete child.name isChild
    | .setNull => assigned fun _ _ => .null
    | .setDefault => assigned fun _ m => default m
  return {
    name := "", time := .after, event, steps := [step]
    condition? := if isUpdate then isKept.map (.unary .not) else none }

end ForeignKey

/-- What tells the programs that are run because of changes of rows from each other. -/
inductive ProgramKey where
  | trigger (name : String)
  /-- What follows from the reference of a table that has a certain place there, when a row to which
  it leads goes away or changes. -/
  | reference (child : String) (place : Nat) (isUpdate : Bool)
  deriving Repr, DecidableEq

/-- Whether a program is a trigger. -/
def ProgramKey.isTrigger : ProgramKey → Bool
  | .trigger _ => true
  | _ => false

namespace Account

/-- What follows for other rows from a row that goes away or changes. -/
def followUps (account : Account) (table : Table) (change? : Option Alteration)
    (event : TriggerEvent) : List (ProgramKey × Trigger) :=
  let isUpdate := event ≠ .delete
  (account.schema.placedReferencesTo table).filterMap fun (child, reference, place) => do
    let trigger ← reference.follow? child table event
    if change?.all (reference.isAlteredAt table) then
      some (.reference child.name place isUpdate, trigger)
    else none

end Account
end AppCatalog
