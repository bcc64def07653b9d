import AppCatalog.Query.Plan
import AppCatalog.Query.SortKey

/-!
# Joining rows

Sources are gone through one inside the other, the last one fastest. A source may keep the rows
before it that no row of it goes with, and a source may keep its own rows that go with none before
it; the latter come when all others are done.
-/

namespace AppCatalog

/-- What is known while sources are gone through. -/
structure Feed where
  /-- What terms are evaluated with where some rows are at hand. -/
  setting : Outlook → Setting
  /-- Goes through the rows of a source that is no table. -/
  each : {α : Type} → Outlook → Level → (α → Station → Run (Taken α)) → α → Run (Taken α)

namespace Station

/-- What tells a row of a source from the others. -/
def identity (encoding : Encoding) (station : Station) : Run (List Value) := do
  let isKeyed : Option Index := match station with
    | .stored table _ => if table.hasRowid then none else table.primaryKey?
    | .entry table _ _ => if table.hasRowid then none else table.primaryKey?
    | _ => none
  match isKeyed with
  | none => return [(← station.value encoding none).value]
  | some key =>
    key.keyColumns.mapM fun column => return (← station.value encoding column.item.column?).value

end Station

namespace Setting

/-- Whether conditions hold, first to last. -/
def meetsAll (setting : Setting) : List Term → Run Bool
  | [] => return true
  | term :: rest => do if ← setting.isMet term then setting.meetsAll rest else return false

end Setting

/-! ## Rows of a table -/

namespace Approach

mutual

/-- Goes through the rows of a table that are found in some way. -/
def each {α : Type} (feed : Feed) (outlook : Outlook) (cursor : Nat) (table : Table)
    (take : α → Station → Run (Taken α)) : Approach → α → Run (Taken α)
  | .all index? isBackward, state => table.eachRow index? isBackward take state
  | .number part, state =>
    table.eachNumber (feed.setting outlook) part
      (fun state row => take state (.stored table row)) state
  | .numbers low? high? isBackward, state =>
    table.eachNumbered (feed.setting outlook) low? high? isBackward
      (fun state row => take state (.stored table row)) state
  | .search found, state =>
    found.each (feed.setting outlook)
      (fun state entry => take state (table.stationIn found.index entry)) state
  | .transient .., state => table.eachRow none false take state
  | .supplied _, state => table.eachRow none false take state
  | .either ways, state => do
    let ((state, _), goesOn) ← eachWay feed outlook cursor table take ways (state, [])
    return (state, goesOn)

/-- Goes through the rows that are found in one of several ways, but for those that were found
before. -/
def eachWay {α : Type} (feed : Feed) (outlook : Outlook) (cursor : Nat) (table : Table)
    (take : α → Station → Run (Taken α)) :
    List (Approach × List Term) → α × List (List Value) → Run (Taken (α × List (List Value)))
  | [], state => return (state, true)
  | (way, tests) :: rest, state => do
    let takeNew (state : α × List (List Value)) (station : Station) :
        Run (Taken (α × List (List Value))) := do
      let setting := feed.setting ((cursor, station) :: outlook)
      if ← setting.meetsAll tests then
        let key ← station.identity setting.encoding
        if state.2.contains key then return (state, true)
        else
          let (taken, goesOn) ← take state.1 station
          return ((taken, key :: state.2), goesOn)
      else return (state, true)
    let (state, goesOn) ← each feed outlook cursor table takeNew way state
    if goesOn then eachWay feed outlook cursor table take rest state
    else return (state, false)

end

end Approach

namespace Level

/-- Goes through the rows of a source, however they are found. -/
def eachPlain {α : Type} (level : Level) (feed : Feed) (outlook : Outlook)
    (take : α → Station → Run (Taken α)) (state : α) : Run (Taken α) :=
  match level.source.origin with
  | .table table => level.approach.each feed outlook level.source.cursor table take state
  | _ => feed.each outlook level take state

/-- The rows of a source that have some values in some columns, in the order of other columns. -/
def matching (level : Level) (feed : Feed) (outlook : Outlook) (columns : List (Nat × KeyPart))
    (others : List Nat) : Run (List Station) := do
  let setting := feed.setting outlook
  let encoding := setting.encoding
  let wanted ← columns.mapM fun (column, part) => do
    return (column, part, ← part.values setting)
  let (all, _) ← level.eachPlain feed outlook
    (fun (found : List Station) station => return (station :: found, true)) []
  let found ← all.filterM fun station =>
    wanted.allM fun (column, part, values) => do
      let own := part.affinity.apply encoding (← station.value encoding (some column)).value
      return values.any fun value => own.compareTo encoding part.collation value = .eq
  let keyed ← found.reverse.mapM fun station => do
    let values ← others.mapM fun column =>
      return (← station.value encoding (some column)).value
    return (values.map (SortKey.plain · .binary), station)
  let sorted := keyed.mergeSort fun a b => SortKey.isBefore encoding a.1 b.1
  return sorted.map (·.2)

/-- Goes through the rows of a source. -/
def each {α : Type} (level : Level) (feed : Feed) (outlook : Outlook)
    (take : α → Station → Run (Taken α)) (state : α) : Run (Taken α) :=
  match level.approach with
  | .transient columns others => do
    let found ← level.matching feed outlook columns others
    found.foldlM (fun (state, goesOn) station => do
      if goesOn then take state station else return (state, false)) (state, true)
  | _ => level.eachPlain feed outlook take state

end Level

/-! ## Several sources -/

/-- How far the joining of rows is: what was made of those that were taken, and the rows that go
with some before, by their sources. -/
structure Joined (α : Type) where
  state : α
  partners : List (Nat × List Value) := []

namespace Level

/-- What is done with rows that are joined. -/
abbrev Take (α : Type) : Type := Joined α → Outlook → Run (Taken (Joined α))

/-- Goes on with a row of a source if it satisfies the further conditions. -/
def inner {α : Type} (level : Level) (feed : Feed) (next : Take α) : Take α :=
  fun joined outlook => do
    if ← (feed.setting outlook).meetsAll level.tests then next joined outlook
    else return (joined, true)

/-- Goes through the rows of a source that go with those before. -/
def outer {α : Type} (level : Level) (feed : Feed) (next : Take α) : Take α :=
  fun joined outlook => do
    let cursor := level.source.cursor
    let joining := level.source.joining
    let take (found : Joined α × Bool) (station : Station) : Run (Taken (Joined α × Bool)) := do
      let here := (cursor, station) :: outlook
      let setting := feed.setting here
      if ← setting.meetsAll level.joined then
        let joined ← if joining.keepsRight then do
            let key ← station.identity setting.encoding
            pure { found.1 with partners := (cursor, key) :: found.1.partners }
          else pure found.1
        let (joined, goesOn) ← level.inner feed next joined here
        return ((joined, true), goesOn)
      else return (found, true)
    let ((joined, isMet), goesOn) ← level.each feed outlook take (joined, false)
    if joining.keepsLeft && !isMet && goesOn then
      level.inner feed next joined ((cursor, .vacant) :: outlook)
    else return (joined, goesOn)

/-- Goes through the rows of sources, one inside the other. -/
def nested {α : Type} (feed : Feed) (last : Take α) : List Level → Take α
  | [] => last
  | level :: rest => level.outer feed (nested feed last rest)

/-- Goes through the rows of a source that go with none before. -/
def alone {α : Type} (level : Level) (feed : Feed) (before : List Level) (next : Take α) :
    Take α :=
  fun joined outlook => do
    let cursor := level.source.cursor
    let vacant : Outlook := before.map fun other => (other.source.cursor, .vacant)
    let outlook := vacant ++ outlook
    let take (joined : Joined α) (station : Station) : Run (Taken (Joined α)) := do
      let here := (cursor, station) :: outlook
      let key ← station.identity (feed.setting here).encoding
      if joined.partners.contains (cursor, key) then return (joined, true)
      else level.inner feed next joined here
    let plain := { level with approach := .all none false }
    plain.each feed outlook take joined

/-- Goes through the rows of sources that go with none before, source by source. -/
def allAlone {α : Type} (feed : Feed) (last : Take α) :
    (before after : List Level) → (outlook : Outlook) → Joined α → Run (Taken (Joined α))
  | _, [], _, joined => return (joined, true)
  | before, level :: after, outlook, joined => do
    let (joined, goesOn) ←
      if level.source.joining.keepsRight then
        level.alone feed before (nested feed last after) joined outlook
      else pure (joined, true)
    if goesOn then allAlone feed last (before ++ [level]) after outlook joined
    else return (joined, false)

/-- Goes through the rows of sources that go with each other. -/
def join {α : Type} (levels : List Level) (feed : Feed)
    (take : α → Outlook → Run (Taken α)) (outlook : Outlook) (state : α) : Run (Taken α) := do
  let last : Take α := fun joined outlook => do
    let (state, goesOn) ← take joined.state outlook
    return ({ joined with state }, goesOn)
  let (joined, goesOn) ← nested feed last levels { state } outlook
  if !goesOn then return (joined.state, false)
  else
    let (joined, goesOn) ← allAlone feed last [] levels outlook joined
    return (joined.state, goesOn)

end Level
end AppCatalog
