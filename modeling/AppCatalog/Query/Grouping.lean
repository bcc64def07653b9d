import AppCatalog.Query.Aggregate
import AppCatalog.Query.Joining

/-!
# Groups of rows

Rows with the same keys make a group. What functions make of its rows stands in a source of its own,
beside one of the rows: the first one, or the one that has the extreme which was asked for last.
-/

namespace AppCatalog

namespace TermOrder

/-- What a row is ordered by that has a value for the term. -/
def key (order : TermOrder) (value : Value) : SortKey where
  value := value
  collation := order.term.collation?.getD .binary
  descending := order.descending
  nullsFirst := order.descending == order.movesNull

/-- What a row is ordered by. -/
def keys (setting : Setting) (order : List TermOrder) : Run (List SortKey) :=
  order.mapM fun one => return one.key (← setting.evaluate one.term).value

end TermOrder

/-- What a row gives to a function: what it is ordered by there, and the arguments. -/
structure Contribution where
  keys : List SortKey := []
  arguments : List Marked

/-- A function of several rows, taken apart. -/
structure Gathering where
  function : String
  isDistinct : Bool
  arguments : List Term
  order : List TermOrder
  filter? : Option Term

namespace Gathering

/-- The parts of a term that is such a function. -/
def ofTerm (term : Term) : Gathering :=
  match term with
  | .aggregate _ function isDistinct arguments order filter? =>
    { function := function.toLower, isDistinct, arguments, order, filter? }
  | .window function arguments filter? _ =>
    { function := function.toLower, isDistinct := false, arguments, order := [], filter? }
  | _ => { function := "", isDistinct := false, arguments := [], order := [], filter? := none }

/-- What a row gives to a function, if it gives anything. -/
def contribution? (gathering : Gathering) (setting : Setting) : Run (Option Contribution) := do
  let isMeant ← match gathering.filter? with
    | none => pure true
    | some filter => setting.isMet filter
  if !isMeant then return none
  else
    let arguments ← gathering.arguments.mapM setting.evaluate
    let keys ← TermOrder.keys setting gathering.order
    return some { keys, arguments }

/-- The order of texts in which a function compares. -/
def collation (gathering : Gathering) : Collation :=
  (gathering.arguments.findSome? Term.collation?).getD .binary

/-- What a function makes of what rows give to it. -/
def result (gathering : Gathering) (encoding : Encoding) (rows : List Contribution) :
    Except SqlError Marked := do
  let rows :=
    if gathering.order.isEmpty then rows
    else rows.mergeSort fun a b => SortKey.isBefore encoding a.keys b.keys
  let collations := gathering.arguments.map fun term => term.collation?.getD .binary
  let rows :=
    if !gathering.isDistinct then rows
    else
      ((rows.foldl (fun (found : List Contribution × Seen) row =>
        let key := Seen.row encoding collations (row.arguments.map (·.value))
        if found.2.contains key then found else (row :: found.1, found.2.insert key))
        ([], {})).1).reverse
  Marked.aggregate encoding gathering.collation gathering.function (rows.map (·.arguments))

/-- Whether a value that rows give is better than the best one so far. -/
def isBetter (gathering : Gathering) (encoding : Encoding) (best value : Value) : Bool :=
  let wanted : Ordering := if gathering.function = "max" then .gt else .lt
  best.isNull ||
    (!value.isNull && value.compareTo encoding gathering.collation best = wanted)

end Gathering

/-- A row that belongs to a group. -/
structure Member where
  keys : List SortKey
  outlook : Outlook
  /-- What it gives to each function. -/
  given : List (Option Contribution)

namespace Grouping

/-- The functions, taken apart. -/
def gatherings (grouping : Grouping) : List Gathering := grouping.functions.map Gathering.ofTerm

/-- A row as a member of a group. -/
def member (grouping : Grouping) (feed : Feed) (outlook : Outlook) : Run Member := do
  let setting := feed.setting outlook
  let keys ← TermOrder.keys setting grouping.keys
  return { keys, outlook, given := ← grouping.gatherings.mapM (·.contribution? setting) }

/-- The row that stands for a group. -/
def spokesman? (grouping : Grouping) (encoding : Encoding) (members : List Member) :
    Option Outlook :=
  let extremes := grouping.gatherings.zipIdx.filter fun (one, _) =>
    (one.function = "min" || one.function = "max") && one.arguments.length = 1
  match extremes.getLast? with
  | none => members.head?.map (·.outlook)
  | some (gathering, n) =>
    (members.foldl (fun (found : Option Outlook × Value) row =>
      match row.given.getD n none with
      | none => if found.1.isNone then (some row.outlook, found.2) else found
      | some given =>
        let value := (Marked.first given.arguments).value
        if gathering.isBetter encoding found.2 value then (some row.outlook, value) else found)
      (none, .null)).1

/-- What is at hand for a group. Without members there is nothing but what functions say. -/
def outlookOf (grouping : Grouping) (encoding : Encoding) (vacant : Outlook)
    (members : List Member) : Run Outlook := do
  let results ← grouping.gatherings.zipIdx.mapM fun (gathering, n) =>
    let rows := members.filterMap fun row => row.given.getD n none
    Run.ofExcept (gathering.result encoding rows)
  let outlook := (grouping.spokesman? encoding members).getD vacant
  return (grouping.cursor, .row results .null) :: outlook

/-- Rows that come one after another, put together with their likes. -/
def runs (encoding : Encoding) : List Member → List (List Member)
  | [] => []
  | first :: rest =>
    match runs encoding rest with
    | (next :: group) :: groups =>
      if SortKey.orderOfAll encoding first.keys next.keys = .eq then
        (first :: next :: group) :: groups
      else [first] :: (next :: group) :: groups
    | groups => [first] :: groups

/-- The groups of some rows. Without keys there is one, even if there are no rows. -/
def groups (grouping : Grouping) (encoding : Encoding) (members : List Member) :
    List (List Member) :=
  if grouping.keys.isEmpty then [members]
  else
    let sorted :=
      if grouping.isOrdered then members
      else members.mergeSort fun a b => SortKey.isBefore encoding a.keys b.keys
    runs encoding sorted

/-- Goes through the groups that are wanted. -/
def each {α : Type} (grouping : Grouping) (feed : Feed) (encoding : Encoding) (vacant : Outlook)
    (members : List Member) (take : α → Outlook → Run (Taken α)) (state : α) : Run (Taken α) :=
  (grouping.groups encoding members).foldlM (fun (state, goesOn) group => do
    if !goesOn then return (state, false)
    else
      let outlook ← grouping.outlookOf encoding vacant group
      let isWanted ← match grouping.having? with
        | none => pure true
        | some having => (feed.setting outlook).isMet having
      if isWanted then take state outlook else return (state, true)) (state, true)

end Grouping
end AppCatalog
