import AppCatalog.Changes.Program

/-!
# Changing rows

What happens when rows are inserted, changed or deleted. A trigger is fired once for each row, before
or after what it waits for, or instead of it; it does not fire itself while it runs. The newest
trigger comes first. One of them may ask that the row is left alone: then what is still to be done
for the row is not done.
-/

namespace AppCatalog

/-- What is done with programs when something happens to a row. What the statement says about
constraints holds for them as well. -/
abbrev Firing : Type := List ProgramKey → Option OnConflict → RowEvent → Run Unit

/-- Where rows are changed. -/
structure Editing where
  schema : Schema
  /-- Fires programs that do not run already. -/
  fire : Firing
  /-- Whether what is fired is only what follows from references. -/
  isQuiet : Bool := false
  /-- Whether nothing happens but that a single row is stored. -/
  isSingle : Bool := false

namespace Tally

/-- What is known when one more row changed. -/
def counted (tally : Tally) : Tally := { tally with current := tally.current + 1 }

/-- What is known when a row with a number was inserted. -/
def inserted (tally : Tally) (rowid? : Option Int) : Tally :=
  { tally.counted with rowid := rowid?.getD tally.rowid }

end Tally

namespace Editing

/-- How references are kept account of. -/
def account (editing : Editing) : Account where
  schema := editing.schema
  isSingle := editing.isSingle
  isLenient := editing.isQuiet

/-- Fires the triggers for an event. The answer says whether the row is not left alone. -/
def goesOn (editing : Editing) (table : Table) (time : TriggerTime) (override? : Option OnConflict)
    (happening : RowEvent) : Run Bool :=
  tryCatch
    (do
      unless editing.isQuiet do
        let triggers := table.triggers.filter (·.awaits time happening.event)
        editing.fire (triggers.map fun trigger => .trigger trigger.name) override? happening
      return true)
    fun interruption =>
      match interruption with
      | .skipped => return false
      | interruption => throw interruption

/-! ## Deleting -/

/-- What happens to other rows when a row goes away or changes. -/
def followUp (editing : Editing) (table : Table) (change? : Option Alteration)
    (happening : RowEvent) : Run Unit := do
  let programs := (editing.account.followUps table change? happening.event).map (·.1)
  editing.fire programs (some .abort) happening

/-- Takes a row out on which a cursor rests. -/
def remove (editing : Editing) (table : Table) (row : StoredRow) (cursor : Cursor) : Run Unit := do
  editing.account.tally table none row false
  table.deleteAt editing.schema.encoding cursor
  editing.followUp table none { event := .delete, old? := some row }

/-- Deletes a row, if it is still there. -/
def delete (editing : Editing) (table : Table) (row : StoredRow) : Run Unit := do
  let encoding := editing.schema.encoding
  if let some cursor ← table.findRow encoding row then
    let row ← table.rowAt encoding cursor
    let happening : RowEvent := { event := .delete, old? := some row }
    if ← editing.goesOn table .before none happening then
      if let some cursor ← table.findRow encoding row then
        editing.remove table row cursor
        Run.tally Tally.counted
        discard (editing.goesOn table .after none happening)

/-- What else is done when rows come into a table and go out of it. -/
def guard (editing : Editing) (table : Table) (change? : Option Alteration) : Table.Guard where
  isBound := editing.schema.isTied table
  remove cursor := do
    if editing.schema.isTied table then
      editing.remove table (← table.rowAt editing.schema.encoding cursor) cursor
    else table.deleteAt editing.schema.encoding cursor
  accept row := editing.account.tally table change? row true

/-! ## Inserting -/

/-- A row of a view that is given values for some of its columns. -/
def viewRow (width : Nat) (new : Table.NewRow) : StoredRow where
  rowid? := none
  values := (List.range width).map fun n => (new.values.lookup n).getD .null

/-- Inserts a row into a table. Where another row is in the way for which there is a clause, it is
settled as is said. The answer is the row as it was stored. -/
def insertStored (editing : Editing) (table : Table) (override? : Option OnConflict)
    (clauses : List ClashClause) (settle : Nat → StoredRow → Cursor → Run Unit)
    (new : Table.NewRow) : Run (Option StoredRow) := do
  let encoding := editing.schema.encoding
  let counter? ← (editing.schema.counter? table : Volume.Act _)
  let (cursor, opened) ← (table.openAll : Volume.Act _)
  if table.hasTrigger .before .insert && !editing.isQuiet then
    let row ← table.proposed encoding new
    let happening : RowEvent := { event := .insert, new? := some row }
    unless ← editing.goesOn table .before override? happening do return none
  let counted? := counter?.map RowCounter.greatest
  let guard := editing.guard table none
  match ← table.insert editing.schema override? counted? guard cursor opened new clauses with
  | .left => return none
  | .clash clause row other =>
    settle clause row other
    return none
  | .stored row =>
    Run.tally (·.inserted row.rowid?)
    discard (editing.goesOn table .after override? { event := .insert, new? := some row })
    if let some counter := counter? then
      (editing.schema.setCounter counter table (row.rowid?.getD 0) : Volume.Act Unit)
    return some row

/-- Inserts a row into a table or a view. The answer is the row as it was stored, or as it was given
to a view. -/
def insert (editing : Editing) (inlet : Inlet) (override? : Option OnConflict)
    (settle : Nat → StoredRow → Cursor → Run Unit) (new : Table.NewRow) :
    Run (Option StoredRow) := do
  let table := inlet.table
  if table.view?.isSome then
    let row := viewRow inlet.width new
    if ← editing.goesOn table .instead override? { event := .insert, new? := some row } then
      return some row
    else return none
  else editing.insertStored table override? inlet.clauses settle new

/-! ## Changing -/

/-- A row with other values in some of its columns. -/
def assign (table : Table) (encoding : Encoding) (row : StoredRow)
    (values : List (Option Nat × Value)) : Run StoredRow :=
  values.foldlM (fun row (n?, value) => do
    match n?.filter (table.rowidColumn? ≠ some ·) with
    | some n => return { row with values := row.values.set n value }
    | none =>
      match Table.rowidOf? encoding value with
      | some rowid => return { row with rowid? := row.rowid?.map fun _ => rowid }
      | none => Run.fail .mismatch) row

/-- A changed row with what became of its other columns in the meantime. -/
def caughtUp (table : Table) (change : Alteration) (now new : StoredRow) : StoredRow :=
  let values := (now.values.zip new.values).zipIdx.map fun ((now, new), n) =>
    if table.isAltered change n then new else now
  { new with values }

/-- Stores a changed row in place of what it was. -/
def replaceRow (editing : Editing) (table : Table) (change : Alteration) (old : StoredRow)
    (pending : Table.Pending) : Run Unit := do
  let schema := editing.schema
  editing.account.tally table (some change) old false
  table.deleteRow schema.encoding old
  (editing.guard table (some change)).accept pending.row
  let (cursor, opened) ← (table.openAll : Volume.Act _)
  let opened ← opened.mapM fun one => do
    return { one with entry? := ← table.entryOf schema.encoding pending.row one.index }
  (table.write schema { row := pending.row, cursor } opened : Volume.Act Unit)

/-- Changes a row, if it is still there. `valuesFor` says what columns get. -/
def update (editing : Editing) (revision : Revision) (override? : Option OnConflict)
    (valuesFor : StoredRow → Run (List (Option Nat × Value))) (row : StoredRow) :
    Run Unit := do
  let table := revision.table
  let encoding := editing.schema.encoding
  let event := TriggerEvent.update revision.names
  let some cursor ← table.findRow encoding row | return
  let old ← table.rowAt encoding cursor
  let change := revision.alteration
  let values ← valuesFor old
  let new ← table.complete encoding (table.withRowid (← assign table encoding old values))
  let happening (new : StoredRow) : RowEvent := { event, old? := some old, new? := some new }
  let new? ←
    if table.hasTrigger .before event && !editing.isQuiet then do
      Run.ofExcept (table.checkTypes new)
      unless ← editing.goesOn table .before override? (happening new) do return
      match ← table.findRow encoding old with
      | none => pure none
      | some cursor =>
        let now ← table.rowAt encoding cursor
        pure (some (← table.complete encoding (caughtUp table change now new)))
    else pure (some new)
  let some new := new? | return
  let (cursor, opened) ← (table.openAll : Volume.Act _)
  let guard := editing.guard table (some change)
  let pending : Table.Pending := { row := new, old? := some old, cursor }
  match ← table.accept encoding override? (some change) guard change.rowid opened pending with
  | .fit pending _ =>
    editing.replaceRow table change old pending
    Run.tally Tally.counted
    let happening := happening pending.row
    editing.followUp table (some change) happening
    discard (editing.goesOn table .after override? happening)
  | _ => return

/-! ## Deeds -/

/-- A row to insert from values of some columns. Of several values for its number the last one
counts. -/
def newRow (table : Table) (columns : List (Option Nat)) (values : List Value) :
    Table.NewRow where
  values := (columns.zip values).filterMap fun (n?, value) => n?.map (·, value)
  rowid? := ((columns.zip values).reverse.find? fun (n?, _) =>
    n?.isNone || n? = table.rowidColumn?).map (·.2)

/-- The row that is told from the others by some values. -/
def toldRow (table : Table) (values : List Value) : StoredRow :=
  if table.view?.isSome then { rowid? := none, values }
  else
    match if table.hasRowid then none else table.primaryKey? with
    | none =>
      match values with
      | .integer rowid :: _ => { rowid? := some rowid, values := [] }
      | _ => { rowid? := none, values := [] }
    | some key =>
      let places := key.keyColumns.map (·.item.column?)
      let value (n : Nat) : Value :=
        (((places.zip values).find? (·.1 = some n)).map (·.2)).getD .null
      { rowid? := none, values := (List.range table.columns.length).map value }

/-- Rows in the order of what tells them from the others; of several that tell the same row the last
one is kept. -/
def inOrder (table : Table) (encoding : Encoding) (rows : List (List Value)) :
    List (List Value) :=
  if table.view?.isSome then rows
  else
    let collation := (if table.hasRowid then none else table.primaryKey?).map fun key =>
      key.keyColumns.map (·.key)
    let keys (row : List Value) : List SortKey :=
      match collation with
      | none => (row.take 1).map (SortKey.plain · .binary)
      | some columns => (row.zip columns).map fun (value, column) =>
        ⟨value, column.collation, column.descending, !column.descending⟩
    let sorted := rows.mergeSort fun a b => SortKey.isBefore encoding (keys a) (keys b)
    sorted.foldr (fun row rest =>
      match rest with
      | next :: _ =>
        if SortKey.orderOfAll encoding (keys row) (keys next) = .eq then rest else row :: rest
      | [] => [row]) []

/-- What columns get where some rows are at hand. -/
def newValues (machine : Machine) (outlook : Outlook) (revision : Revision) :
    Run (List (Option Nat × Value)) :=
  let setting := machine.setting outlook
  revision.changes.mapM fun (place, term) => do return (place, (← setting.evaluate term).value)

/-- Changes the row that is in the way of one that is inserted. -/
def settle (editing : Editing) (machine : Machine) (outlook : Outlook) (settlement : Settlement)
    (row : StoredRow) (other : Cursor) : Run Unit := do
  let revision := settlement.revision
  let old ← revision.table.rowAt editing.schema.encoding other
  let around := (settlement.excluded, Station.ofRow row) :: outlook
  let here (row : StoredRow) : Outlook := (revision.cursor, Station.ofRow row) :: around
  let isMeant ← match settlement.condition? with
    | none => pure true
    | some condition => (machine.setting (here old)).isMet condition
  if isMeant then
    editing.update revision (some .abort) (fun old => newValues machine (here old) revision) old

/-- Does what a statement does. -/
def perform (editing : Editing) (machine : Machine) (outlook : Outlook)
    (override? : Option OnConflict) (deed : Deed) : Run Unit := do
  let encoding := editing.schema.encoding
  match deed with
  | .select query => discard (machine.each outlook query (fun _ _ => return ((), true)) ())
  | .insert onConflict? inlet query =>
    let table := inlet.table
    let override? := override?.orElse fun _ => onConflict?
    let settle (clause : Nat) (row : StoredRow) (other : Cursor) : Run Unit := do
      if let some settlement := inlet.settlements.lookup clause then
        editing.settle machine outlook settlement row other
    for values in ← machine.rows outlook query do
      let new := newRow table inlet.columns values
      discard (editing.insert inlet override? settle new)
  | .delete table query =>
    let rows := inOrder table encoding (← machine.rows outlook query)
    for values in rows do
      let row := toldRow table values
      if table.view?.isSome then
        discard (editing.goesOn table .instead none { event := .delete, old? := some row })
      else editing.delete table row
  | .update onConflict? revision query =>
    let table := revision.table
    let override? := override?.orElse fun _ => onConflict?
    let rows := inOrder table encoding (← machine.rows outlook query)
    for values in rows do
      let row := toldRow table (values.take revision.width)
      let known : Station := .row (values.map fun value => { value }) .null
      let found (old : StoredRow) : Station := if revision.isKnown then known else .ofRow old
      let valuesFor (old : StoredRow) : Run (List (Option Nat × Value)) :=
        newValues machine ((revision.cursor, found old) :: outlook) revision
      if table.view?.isSome then
        let new ← assign table encoding row (← valuesFor row)
        let event := TriggerEvent.update revision.names
        discard (editing.goesOn table .instead override?
          { event, old? := some row, new? := some new })
      else editing.update revision override? valuesFor row

/-! ## Running programs -/

/-- Does something whose changes are counted on their own. -/
def apart {α : Type} (act : Run α) : Run α := do
  let before := (← getThe Progress).tally
  Run.tally fun tally => { tally with current := 0 }
  let result ← tryCatch (do return Except.ok (← act)) fun cause => return Except.error cause
  Run.tally fun tally => { before with total := tally.total + tally.current }
  MonadExcept.ofExcept result

/-- Runs a program for an event. -/
def run (editing : Editing) (program : Program) (override? : Option OnConflict)
    (happening : RowEvent) : Run Unit :=
  Run.afresh <| apart do
    let outlook := happening.outlook
    let isMeant ← match program.condition? with
      | none => pure true
      | some condition => (program.machine.setting outlook).isMet condition
    if isMeant then
      for deed in program.deeds do
        editing.perform program.machine outlook override? deed
        if !deed.isSelection then Run.tally Tally.ended

/-- The greatest number of programs that run because of each other. -/
def maxNested : Nat := 1000

/-- Where rows are changed while some triggers run. One that runs is not fired again, but what
follows from references always is. -/
def within (schema : Schema) (programs : Programs) (isQuiet : Bool) :
    (rounds : Nat) → (running : List ProgramKey) → Editing
  | 0, _ =>
    { schema, fire := fun _ _ _ => Run.fail (.senseless "too many levels of trigger recursion") }
  | rounds + 1, running =>
    { schema, isQuiet
      fire := fun keys override? happening => do
        for key in keys do
          if !(key.isTrigger && running.contains key) then
            if let some program := programs.lookup key then
              let editing := within schema programs isQuiet rounds (key :: running)
              editing.run program override? happening }

/-- Rows of a schema are changed with all its programs. -/
def ofPrograms (schema : Schema) (programs : Programs) : Editing :=
  within schema programs false maxNested []

end Editing
end AppCatalog
