import AppCatalog.Query.Grouping

/-!
# Rows around rows

What functions make of the rows around a row. Rows are put in order first and taken apart in
partitions; which rows of its partition a row looks at is counted in rows, in groups of rows that
are ordered alike, or by the value that they are ordered by.
-/

namespace AppCatalog

/-- A row with what it gives to the functions. -/
structure PaneRow where
  partition : List SortKey
  order : List SortKey
  given : List (Option Contribution)
  outlook : Outlook

instance : Inhabited PaneRow := ⟨⟨[], [], [], []⟩⟩

/-- Rows of a partition: for each of them, where those begin and end that are ordered alike, and how
many such groups come before. -/
structure Partition where
  rows : Array PaneRow
  peers : Array (Nat × Nat × Nat)

namespace Partition

/-- The groups of rows that are ordered alike, by where they begin and end. -/
def groupsFrom (encoding : Encoding) (rows : Array PaneRow) :
    (rounds start place : Nat) → List (Nat × Nat)
  | 0, start, place => if start < place then [(start, place)] else []
  | rounds + 1, start, place =>
    if rows.size ≤ place then if start < place then [(start, place)] else []
    else
      let isLike := SortKey.orderOfAll encoding (rows.getD start default).order
        (rows.getD place default).order = .eq
      if isLike then groupsFrom encoding rows rounds start (place + 1)
      else (start, place) :: groupsFrom encoding rows rounds place (place + 1)

/-- A partition of some rows. -/
def ofRows (encoding : Encoding) (rows : List PaneRow) : Partition :=
  let rows := rows.toArray
  let groups := groupsFrom encoding rows (rows.size + 1) 0 0
  let peers := groups.zipIdx.flatMap fun ((start, stop), n) =>
    List.replicate (stop - start) (start, stop, n)
  { rows, peers := peers.toArray }

/-- The number of rows. -/
def size (partition : Partition) : Nat := partition.rows.size

/-- Where the rows begin and end that are ordered like a row, and how many groups come before. -/
def peersOf (partition : Partition) (n : Nat) : Nat × Nat × Nat := partition.peers.getD n (n, n, 0)

/-- The groups by where they begin and end. -/
def groups (partition : Partition) : List (Nat × Nat) :=
  (partition.peers.toList.map fun (start, stop, _) => (start, stop)).eraseDups

/-- What a row gives to a function. -/
def given (partition : Partition) (function n : Nat) : Option Contribution :=
  ((partition.rows.getD n default).given.getD function none)

/-- An argument that a row gives to a function. -/
def argument (partition : Partition) (function place n : Nat) : Marked :=
  ((partition.given function n).map (·.arguments.getD place Marked.none)).getD Marked.none

end Partition

/-! ## Which rows are looked at -/

/-- An end of what a row looks at, with its distance. -/
inductive Reach where
  | all
  | before (distance : Value)
  | here
  | behind (distance : Value)
  deriving Repr, DecidableEq

namespace Reach

/-- The distance as a whole number. -/
def steps (encoding : Encoding) (distance : Value) : Nat := (distance.toInteger encoding).toNat

/-- Checks a distance, which is counted in rows or groups unless it is one between values. -/
def check (encoding : Encoding) (isStart isValue : Bool) (distance : Value) :
    Except SqlError Value :=
  let title := if isStart then "frame starting offset" else "frame ending offset"
  let number := Affinity.numeric.apply encoding distance
  if isValue then
    match number with
    | .integer n => if 0 ≤ n then .ok number else wrong title
    | .real bits => if (Double.ofBits bits).isNegative then wrong title else .ok number
    | _ => wrong title
  else
    match number with
    | .integer n => if 0 ≤ n then .ok number else wrong title
    | _ => wrong title
where
  /-- The complaint about a distance. -/
  wrong (title : String) : Except SqlError Value :=
    .error (.senseless (title ++ " must be a non-negative " ++
      if isValue then "number" else "integer"))

/-- An end that is said, with what its distance comes to. -/
def ofEdge (setting : Setting) (isStart isValue : Bool) : PaneEdge → Run Reach
  | .unboundedPreceding => return .all
  | .unboundedFollowing => return .all
  | .currentRow => return .here
  | .preceding distance => do
    let value := (← setting.evaluate distance).value
    return .before (← Run.ofExcept (check setting.encoding isStart isValue value))
  | .following distance => do
    let value := (← setting.evaluate distance).value
    return .behind (← Run.ofExcept (check setting.encoding isStart isValue value))

end Reach

namespace Partition

/-- The key at a distance from the one of a row; only numbers are at a distance from each other. -/
def keyAt (encoding : Encoding) (key : SortKey) (isBehind : Bool) (distance : Value) : SortKey :=
  let isUp := isBehind != key.descending
  match key.value with
  | .integer _ | .real _ =>
    let op : Binary := if isUp then .add else .subtract
    { key with value := op.apply encoding key.value distance }
  | _ => key

/-- The rows that a row looks at: from where to before where. -/
def reach (partition : Partition) (encoding : Encoding) (unit : FrameUnit) (start stop : Reach)
    (n : Nat) : Nat × Nat :=
  let size := partition.size
  let (peersStart, peersStop, group) := partition.peersOf n
  let steps := Reach.steps encoding
  match unit with
  | .rows =>
    let low := match start with
      | .all => 0
      | .before distance => n - steps distance
      | .here => n
      | .behind distance => n + steps distance
    let high := match stop with
      | .all => size
      | .before distance => n + 1 - steps distance
      | .here => n + 1
      | .behind distance => n + 1 + steps distance
    (low, min high size)
  | .groups =>
    let groups := partition.groups
    let startOf (m : Nat) : Nat := ((groups[m]?).map (·.1)).getD size
    let stopOf (m : Nat) : Nat := ((groups[m]?).map (·.2)).getD size
    let low := match start with
      | .all => 0
      | .before distance => startOf (group - steps distance)
      | .here => peersStart
      | .behind distance => startOf (group + steps distance)
    let high := match stop with
      | .all => size
      | .before distance => if group < steps distance then 0 else stopOf (group - steps distance)
      | .here => peersStop
      | .behind distance => stopOf (group + steps distance)
    (low, high)
  | .range =>
    let keyOf (m : Nat) : Option SortKey := ((partition.rows.getD m default).order).head?
    let countBefore (isBehind isIn : Bool) (distance : Value) : Nat :=
      match keyOf n with
      | none => if isIn then size else 0
      | some key =>
        let edge := keyAt encoding key isBehind distance
        ((List.range size).takeWhile fun m =>
          match (keyOf m).map (SortKey.order encoding · edge) with
          | some .lt => true
          | some .eq => isIn
          | _ => false).length
    let low := match start with
      | .all => 0
      | .before distance => countBefore false false distance
      | .here => peersStart
      | .behind distance => countBefore true false distance
    let high := match stop with
      | .all => size
      | .before distance => countBefore false true distance
      | .here => peersStop
      | .behind distance => countBefore true true distance
    (low, high)

/-- Whether a row is left out of those that another one looks at. -/
def isLeftOut (partition : Partition) (exclusion : FrameExclusion) (n m : Nat) : Bool :=
  let (start, stop, _) := partition.peersOf n
  let isPeer := start ≤ m && m < stop
  match exclusion with
  | .nothing => false
  | .currentRow => m = n
  | .group => isPeer
  | .ties => isPeer && m ≠ n

/-! ## What functions make of them -/

/-- The bucket of a row, of so many. -/
def bucket (count buckets n : Nat) : Nat :=
  let size := count / buckets
  if size = 0 then n + 1
  else
    let large := count - buckets * size
    let small := large * (size + 1)
    if n < small then 1 + n / (size + 1) else 1 + large + (n - small) / size

/-- A part of a whole. -/
def share (part whole : Nat) : Value :=
  .ofDouble (Double.divide (.ofInt part) (.ofInt whole))

/-- The row at a distance from a row, which is given or one, if there is such a row. -/
def distant? (encoding : Encoding) (isBehind : Bool) (distance? : Option Value) (visible n : Nat) :
    Option Nat :=
  let op : Binary := if isBehind then .add else .subtract
  let place := op.apply encoding (.integer (n + 1)) (distance?.getD (.integer 1))
  match Affinity.numeric.apply encoding place with
  | .integer place => if 1 ≤ place ∧ place ≤ visible then some (place.toNat - 1) else none
  | _ => none

/-- The complaint about a place that is none. -/
def noPlace : SqlError := .senseless "second argument to nth_value must be a positive integer"

/-- What a function of the place of a row makes of it, if it is one. -/
def placed? (partition : Partition) (encoding : Encoding) (name : String) (function : Nat)
    (rows : List Nat) (n : Nat) : Option (Except SqlError Marked) :=
  let size := partition.size
  let (start, stop, group) := partition.peersOf n
  let number (n : Nat) : Marked := { value := .integer n }
  let first (m? : Option Nat) : Marked :=
    (m?.map (partition.argument function 0)).getD Marked.none
  let distance? := ((partition.given function n).bind (·.arguments[1]?)).map (·.value)
  let otherwise := partition.argument function 2 n
  match name with
  | "row_number" => some (.ok (number (n + 1)))
  | "rank" => some (.ok (number (start + 1)))
  | "dense_rank" => some (.ok (number (group + 1)))
  | "percent_rank" =>
    some (.ok { value := if size ≤ 1 then .ofDouble (.ofInt 0) else share start (size - 1) })
  | "cume_dist" => some (.ok { value := share stop size })
  | "ntile" =>
    let buckets := (partition.argument function 0 0).value.toInteger encoding
    some (if buckets ≤ 0 then
      .error (.senseless "argument of ntile must be a positive integer")
    else .ok (number (bucket size buckets.toNat n)))
  | "first_value" => some (.ok (first rows.head?))
  | "last_value" => some (.ok (first rows.getLast?))
  | "nth_value" =>
    match distance?.map (Affinity.numeric.apply encoding) with
    | some (.integer place) =>
      some (if place ≤ 0 then .error noPlace else .ok (first rows[place.toNat - 1]?))
    | _ => some (.error noPlace)
  | "lead" =>
    match distant? encoding true distance? size n with
    | some m => some (.ok (first (some m)))
    | none => some (.ok otherwise)
  | "lag" =>
    match distant? encoding false distance? (min (n + 2) size) n with
    | some m => some (.ok (first (some m)))
    | none => some (.ok otherwise)
  | _ => none

/-- A sum of what rows between two places give, and those places. -/
structure Slide where
  sum : Sum := {}
  low : Nat := 0
  high : Nat := 0

/-- A sum over other rows: some come into it, and some go. -/
def Slide.move (slide : Slide) (encoding : Encoding) (partition : Partition) (function : Nat)
    (entersFirst : Bool) (low high : Nat) : Slide :=
  let value (n : Nat) : Value := (partition.argument function 0 n).value
  let between (start stop : Nat) : List Nat := (List.range stop).drop start
  let enter (sum : Sum) : Sum := (between slide.high high).foldl (fun sum n =>
    if (partition.given function n).isSome then sum.add encoding (value n) else sum) sum
  let leave (sum : Sum) (stop : Nat) : Sum := (between slide.low stop).foldl (fun sum n =>
    if (partition.given function n).isSome then sum.remove encoding (value n) else sum) sum
  let sum :=
    if entersFirst then leave (enter slide.sum) (min low (max high slide.high))
    else enter (leave slide.sum (min low slide.high))
  { sum, low := max low slide.low, high := max high slide.high }

/-- What a function makes of the rows that each row looks at. -/
def results (partition : Partition) (encoding : Encoding) (gathering : Gathering)
    (function : Nat) (shape : FrameShape) (start stop : Reach) : Except SqlError (List Marked) := do
  let slides := start ≠ .all && shape.exclusion = .nothing &&
    ["sum", "total", "avg"].contains gathering.function
  let entersFirst := match start with
    | .behind _ => true
    | _ => false
  let mut slide : Slide := {}
  let mut found : Array Marked := #[]
  for n in List.range partition.size do
    let (low, high) := partition.reach encoding shape.unit start stop n
    if slides then
      slide := slide.move encoding partition function entersFirst low high
      match slide.sum.called? gathering.function with
      | some result => found := found.push { value := ← result }
      | none => found := found.push Marked.none
    else
      let rows := ((List.range high).drop low).filter
        (!partition.isLeftOut shape.exclusion n ·)
      match partition.placed? encoding gathering.function function rows n with
      | some result => found := found.push (← result)
      | none =>
        let given := rows.filterMap (partition.given function)
        found := found.push (← gathering.result encoding given)
  return found.toList

end Partition

/-! ## All rows -/

namespace Surrounding

/-- The functions, taken apart. -/
def gatherings (surrounding : Surrounding) : List Gathering :=
  surrounding.functions.map Gathering.ofTerm

/-- Plain keys of terms. -/
def plainKeys (setting : Setting) (terms : List Term) : Run (List SortKey) :=
  terms.mapM fun term => do
    return .plain (← setting.evaluate term).value (term.collation?.getD .binary)

/-- A row with what it gives to the functions. -/
def row (surrounding : Surrounding) (feed : Feed) (outlook : Outlook) : Run PaneRow := do
  let setting := feed.setting outlook
  let .mk partition order _ _ _ := surrounding.pane
  let partition ← plainKeys setting partition
  let order ← TermOrder.keys setting order
  let given ← surrounding.gatherings.mapM (·.contribution? setting)
  return { partition, order, given, outlook }

/-- Rows with those of the same partition together. -/
def partitions (encoding : Encoding) : List PaneRow → List (List PaneRow)
  | [] => []
  | first :: rest =>
    match partitions encoding rest with
    | (next :: group) :: groups =>
      if SortKey.orderOfAll encoding first.partition next.partition = .eq then
        (first :: next :: group) :: groups
      else [first] :: (next :: group) :: groups
    | groups => [first] :: groups

/-- What is at hand for the rows of a partition. -/
def outlooksOf (surrounding : Surrounding) (feed : Feed) (encoding : Encoding)
    (rows : List PaneRow) : Run (List Outlook) := do
  let .mk _ _ shape start stop := surrounding.pane
  let setting := feed.setting ((rows.head?.map (·.outlook)).getD [])
  let isValue := shape.unit = .range
  let start ← Reach.ofEdge setting true isValue start
  let stop ← Reach.ofEdge setting false isValue stop
  let partition := Partition.ofRows encoding rows
  let results ← surrounding.gatherings.zipIdx.mapM fun (gathering, n) =>
    Run.ofExcept (partition.results encoding gathering n shape start stop)
  return rows.zipIdx.map fun (row, n) =>
    let values := results.map (·.getD n Marked.none)
    (surrounding.cursor, .row values .null) :: row.outlook

/-- What is at hand for rows, in the order in which they are looked at. -/
def outlooks (surrounding : Surrounding) (feed : Feed) (encoding : Encoding)
    (rows : List Outlook) : Run (List Outlook) := do
  let found ← rows.mapM (surrounding.row feed)
  let key (row : PaneRow) : List SortKey := row.partition ++ row.order
  let sorted := found.mergeSort fun a b => SortKey.isBefore encoding (key a) (key b)
  let groups ← (partitions encoding sorted).mapM (surrounding.outlooksOf feed encoding)
  return groups.flatten

end Surrounding
end AppCatalog
