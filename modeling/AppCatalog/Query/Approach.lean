import AppCatalog.Query.Station

/-!
# Finding rows

How the rows of a table are found: all of them, by the numbers of rows, or by what an index orders
them by. Whoever takes the rows may ask for no more of them. Equal values of a list are looked for
once, the least first.
-/

namespace AppCatalog

/-- What a column of an index is looked for by. -/
inductive Sought where
  /-- A value; whether nothing is the same as nothing is said with it. -/
  | value (term : Term) (findsNull : Bool)
  | list (items : List Term)
  /-- A column of the result of a query. -/
  | query (number place : Nat)

/-- A column of an index with what it is looked for by. -/
structure KeyPart where
  wanted : Sought
  /-- What is made of the values first. -/
  affinity : Affinity := .blob
  collation : Collation := .binary
  /-- Whether the greatest value of a list comes first. -/
  isBackward : Bool := false

/-- An end of a range. -/
structure Edge where
  term : Term
  affinity : Affinity := .blob
  /-- Whether the value itself is left out. -/
  isStrict : Bool := false

/-- A search by what an index orders rows by. -/
structure Search where
  index : Index
  parts : List KeyPart := []
  low? : Option Edge := none
  high? : Option Edge := none
  isBackward : Bool := false
  /-- Whether nothing may stand in the column behind the parts. -/
  mayBeNull : Bool := true

/-- How rows are found. -/
inductive Approach where
  /-- All of them, in their order or in that of an index. -/
  | all (index? : Option Index) (isBackward : Bool)
  /-- By their numbers. -/
  | number (part : KeyPart)
  | numbers (low? high? : Option Edge) (isBackward : Bool)
  | search (search : Search)
  /-- By columns of an index that is made for it. -/
  | transient (columns : List (Nat × KeyPart)) (others : List Nat)
  /-- By hidden columns of a function that gives rows. -/
  | supplied (columns : List (Nat × Term))
  /-- In several ways, one after another; no row is found twice. -/
  | either (ways : List (Approach × List Term))

/-- How far somebody is who takes rows, and whether more are wanted. -/
abbrev Taken (α : Type) : Type := α × Bool

namespace Cursor

/-- Goes through cells from one on, as long as a test is passed. -/
def walk {α : Type} (isBackward : Bool) (isMeant : Cursor → Volume.Act Bool)
    (take : α → Cursor → Run (Taken α)) : (rounds : Nat) → Cursor → α → Run (Taken α)
  | 0, _, _ => Run.fail .malformed
  | rounds + 1, cursor, state => do
    if !cursor.isOn then return (state, true)
    if !(← (isMeant cursor : Volume.Act Bool)) then return (state, true)
    let (state, goesOn) ← take state cursor
    if !goesOn then return (state, false)
    let next ← (if isBackward then cursor.back else cursor.next : Volume.Act Cursor)
    walk isBackward isMeant take rounds next state

end Cursor

namespace KeyPart

/-- Values in order, each but once, without those that are nothing. -/
def sorted (encoding : Encoding) (part : KeyPart) (values : List Value) : List Value :=
  let order (a b : Value) : Ordering := a.compareTo encoding part.collation b
  let values := (values.map (part.affinity.apply encoding)).filter (!·.isNull)
  let sorted := values.mergeSort fun a b => order a b ≠ .gt
  let single := sorted.foldr (fun value rest =>
    match rest with
    | next :: _ => if order value next = .eq then rest else value :: rest
    | [] => [value]) []
  if part.isBackward then single.reverse else single

/-- The values that a column is looked for by. -/
def values (setting : Setting) (part : KeyPart) : Run (List Value) := do
  match part.wanted with
  | .value term findsNull =>
    let value := part.affinity.apply setting.encoding (← setting.evaluate term).value
    return if value.isNull && !findsNull then [] else [value]
  | .list items =>
    return part.sorted setting.encoding ((← items.mapM setting.evaluate).map (·.value))
  | .query number place =>
    let rows ← setting.answer number none
    return part.sorted setting.encoding (rows.map fun row => (row.getD place Marked.none).value)

end KeyPart

namespace Edge

/-- The value of an end of a range; there is none if nothing can be in the range. -/
def value (setting : Setting) (edge : Edge) : Run (Option Value) := do
  let value := edge.affinity.apply setting.encoding (← setting.evaluate edge.term).value
  return if value.isNull then none else some value

end Edge

namespace Search

/-- A key of the index. -/
def key (search : Search) (encoding : Encoding) (values : List Value) (whenEqual : Ordering) :
    Key :=
  { order := Table.keyOrder encoding search.index, values, whenEqual }

/-- Goes to the first entry of a range, from the side from which it is gone through: the first one
that begins with some values or lies behind them, or the first behind all that do. -/
def start (search : Search) (encoding : Encoding) (cursor : Cursor) (values : List Value)
    (isStrict : Bool) : Volume.Act Cursor := do
  if values.isEmpty then
    if search.isBackward then cursor.last else cursor.first
  else
    let whenEqual : Ordering := if isStrict == search.isBackward then .gt else .lt
    let found ← cursor.seekRecord (search.key encoding values whenEqual).probe
    let isSingle := search.low?.isNone && search.high?.isNone && !search.isBackward
    if isSingle && search.mayBeNull && !found.isMet then
      return { found.cursor with rest := .off }
    else if !found.cursor.isOn then return found.cursor
    else if search.isBackward then
      if found.order = .gt then found.cursor.back else return found.cursor
    else if found.order = .lt then found.cursor.next
    else return found.cursor

/-- Whether an entry is not yet behind the end of a range. -/
def isBefore (search : Search) (encoding : Encoding) (values : List Value) (isStrict : Bool)
    (cursor : Cursor) : Volume.Act Bool := do
  if values.isEmpty then return true
  else
    match ← (search.key encoding values .eq).compareAt cursor, search.isBackward with
    | .eq, _ => return !isStrict
    | .lt, isBackward => return !isBackward
    | .gt, isBackward => return isBackward

/-- The values of an end of a range, and whether they are left out themselves; none if nothing can
be in the range. Where the other end is given, what is nothing lies outside. -/
def endOf (search : Search) (setting : Setting) (values : List Value) (own? other? : Option Edge)
    (isNullEnd : Bool) : Run (Option (List Value × Bool)) := do
  match own? with
  | some edge =>
    match ← edge.value setting with
    | some value => return some (values ++ [value], edge.isStrict)
    | none => return none
  | none =>
    if other?.isSome && isNullEnd && search.mayBeNull then
      return some (values ++ [.null], true)
    else return some (values, false)

/-- Goes through the entries that begin with some values and are in the range. -/
def eachWith {α : Type} (search : Search) (setting : Setting) (take : α → Cursor → Run (Taken α))
    (values : List Value) (state : α) : Run (Taken α) := do
  let encoding := setting.encoding
  let column := search.index.columns[values.length]?
  let isSwapped := (column.map (·.key.descending)).getD false != search.isBackward
  let low ← search.endOf setting values search.low? search.high? true
  let high ← search.endOf setting values search.high? search.low? false
  match if isSwapped then (high, low) else (low, high) with
  | (some (first, firstStrict), some (last, lastStrict)) => do
    let cursor ← (Volume.openIndex search.index : Volume.Act Cursor)
    let cursor ← (search.start encoding cursor first firstStrict : Volume.Act Cursor)
    cursor.walk search.isBackward (search.isBefore encoding last lastStrict) take
      Cursor.maxVisits state
  | _ => return (state, true)

/-- Goes through the entries for all values of the parts of a key. -/
def eachPart {α : Type} (search : Search) (setting : Setting)
    (take : α → Cursor → Run (Taken α)) : List KeyPart → List Value → α → Run (Taken α)
  | [], values, state => search.eachWith setting take values state
  | part :: parts, values, state => do
    let found ← part.values setting
    found.foldlM (fun (state, goesOn) value => do
      if goesOn then eachPart search setting take parts (values ++ [value]) state
      else return (state, false)) (state, true)

/-- Goes through the entries that are searched for. -/
def each {α : Type} (search : Search) (setting : Setting) (take : α → Cursor → Run (Taken α))
    (state : α) : Run (Taken α) :=
  search.eachPart setting take search.parts [] state

end Search

namespace Table

/-- A row on which a cursor for an index rests. -/
def stationIn (table : Table) (index : Index) (cursor : Cursor) : Station :=
  if !table.hasRowid && index.isPrimaryKey then .stored table cursor
  else .entry table index cursor

/-- How a number of a row compares with a value; texts that are no numbers come behind all. -/
def compareNumber (encoding : Encoding) (number : Int) (value : Value) : Ordering :=
  (Value.integer number).compareTo encoding .binary (Affinity.numeric.apply encoding value)

/-- Goes through the rows with numbers in a range. -/
def eachNumbered {α : Type} (table : Table) (setting : Setting) (low? high? : Option Edge)
    (isBackward : Bool) (take : α → Cursor → Run (Taken α)) (state : α) : Run (Taken α) := do
  let encoding := setting.encoding
  let lowValue? ← low?.mapM (Edge.value setting)
  let highValue? ← high?.mapM (Edge.value setting)
  let isIn (edge? : Option Edge) (value? : Option (Option Value)) (wanted : Ordering)
      (number : Int) : Bool :=
    match edge?, value? with
    | some edge, some (some value) =>
      match compareNumber encoding number value with
      | .eq => !edge.isStrict
      | order => order = wanted
    | _, _ => true
  if lowValue? = some none ∨ highValue? = some none then return (state, true)
  let aboveLow := isIn low? lowValue? .gt
  let belowHigh := isIn high? highValue? .lt
  let cursor ← (Volume.openTree table.root true : Volume.Act Cursor)
  let near? (value? : Option (Option Value)) : Option Int :=
    match value?.bind id |>.map (Affinity.numeric.apply encoding) with
    | some (.integer n) => some n
    | some (.real bits) => some (Double.ofBits bits).truncate
    | _ => none
  let cursor ← (do
    match near? (if isBackward then highValue? else lowValue?) with
    | none => if isBackward then cursor.last else cursor.first
    | some n =>
      let (cursor, order) ← cursor.seek n
      if !cursor.isOn then return cursor
      else if isBackward && order = .gt then cursor.back
      else if !isBackward && order = .lt then cursor.next
      else return cursor
    : Volume.Act Cursor)
  let (isStart, isEnd) := if isBackward then (belowHigh, aboveLow) else (aboveLow, belowHigh)
  let isMeant (cursor : Cursor) : Volume.Act Bool := do return isEnd (← cursor.key).1
  let takeIn (state : α) (cursor : Cursor) : Run (Taken α) := do
    let (number, cursor) ← (cursor.key : Volume.Act _)
    if isStart number then take state cursor else return (state, true)
  cursor.walk isBackward isMeant takeIn Cursor.maxVisits state

/-- Goes through the rows with some numbers. -/
def eachNumber {α : Type} (table : Table) (setting : Setting) (part : KeyPart)
    (take : α → Cursor → Run (Taken α)) (state : α) : Run (Taken α) := do
  let values ← part.values setting
  let cursor ← (Volume.openTree table.root true : Volume.Act Cursor)
  values.foldlM (fun (state, goesOn) value => do
    match goesOn, Affinity.numeric.apply setting.encoding value with
    | true, .integer number => do
      let (cursor, order) ← (cursor.seek number : Volume.Act _)
      if order = .eq then take state cursor else return (state, true)
    | goesOn, _ => return (state, goesOn)) (state, true)

/-- Goes through all rows, in their order or in that of an index. -/
def eachRow {α : Type} (table : Table) (index? : Option Index) (isBackward : Bool)
    (take : α → Station → Run (Taken α)) (state : α) : Run (Taken α) := do
  let cursor ← match index? with
    | some index => (Volume.openIndex index : Volume.Act Cursor)
    | none => (Volume.openTree table.root table.hasRowid : Volume.Act Cursor)
  let first ← (if isBackward then cursor.last else cursor.first : Volume.Act Cursor)
  let station (cursor : Cursor) : Station :=
    match index? with
    | some index => table.stationIn index cursor
    | none => .stored table cursor
  first.walk isBackward (fun _ => return true) (fun state cursor => take state (station cursor))
    Cursor.maxVisits state

end Table
end AppCatalog
