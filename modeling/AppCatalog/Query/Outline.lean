import AppCatalog.Query.Supplier
import AppCatalog.Schema.Loading
import AppCatalog.Schema.Part
import Std.Data.HashMap

/-!
# Outlines

What a selection takes rows from, and the columns of its result, before any name in an expression
is looked up. Each source is found by its name, all columns of a source are written out where they
are meant, and what sources share becomes a condition. A selection inside of another one is told by
its number from then on.
-/

namespace AppCatalog

/-- What a column of a result is called. -/
inductive ResultLabel where
  /-- A name that it is given. -/
  | named (name : String)
  /-- Its text. -/
  | written (text : String)
  | blank
  /-- A column of a table of a database, in sources that are joined with each other first. -/
  | column (schema table name : String)
  /-- A column that several of those sources share. -/
  | common (name : String)
  /-- The number of a row in those sources. -/
  | rowid (schema table : String)
  deriving Repr, DecidableEq

/-- A column of a result. -/
structure OutlineResult where
  expression : Expression
  label : ResultLabel
  /-- Whether it is left out where all columns of all sources are meant. -/
  isLeftOut : Bool := false

/-- A source of rows. -/
structure OutlineSource where
  source : QuerySource
  /-- The columns that it shares with sources before. -/
  shared? : Option (List String) := none
  /-- Whether that was not said but follows from names. -/
  isImplied : Bool := false
  /-- What a function that gives rows is called with. -/
  arguments : List Expression := []
  /-- What its columns are called, if it is made of sources. -/
  labels? : Option (List ResultLabel) := none

instance : Inhabited OutlineSource := ⟨{ source := default }⟩

/-- A condition before names are looked up. -/
inductive OutlineTest where
  | written (expression : Expression)
  /-- Columns of sources are the same; the first one that has a value counts on the left. -/
  | linked (left : List (Nat × Nat)) (right : Nat × Nat)

/-- A condition on rows, with the source that it joins, if it does, and whether rows stay that do
not satisfy it. -/
structure OutlineCondition where
  test : OutlineTest
  join? : Option (Nat × Bool) := none

/-- A part of a selection. -/
structure OutlineBranch where
  number : Nat
  isDistinct : Bool := false
  results : List OutlineResult
  sources : List OutlineSource := []
  conditions : List OutlineCondition := []
  groups : List Expression := []
  having? : Option Expression := none
  windows : List (String × Window) := []
  /-- Whether it finds rows from those that were found before. -/
  isRecursive : Bool := false
  /-- Whether it lists values. -/
  isValues : Bool := false
  /-- Whether it only joins sources. -/
  isJoin : Bool := false

instance : Inhabited OutlineBranch := ⟨{ number := 0, results := [] }⟩

/-- A selection whose sources are found. -/
structure Outline where
  branches : List (Compound × OutlineBranch)
  order : List (Expression × Bool × Option Bool) := []
  limit? : Option Expression := none
  offset? : Option Expression := none

instance : Inhabited Outline := ⟨{ branches := [] }⟩

/-- A selection that others know by name. -/
structure NamedSelection where
  number : Nat
  name : String
  columns : List String
  isApart? : Option Bool
  selection : Selection

/-- What is known while sources are found. -/
structure Drawing where
  outlines : Array Outline := #[]
  cursors : Nat := 0
  branches : Nat := 0
  shares : Nat := 0
  /-- The columns of views. -/
  views : List (String × List Head) := []

/-- What is done while sources are found. -/
abbrev Outlining : Type → Type := StateT Drawing (Except SqlError)

/-- Where a selection stands. -/
structure Surroundings where
  schema : Schema
  /-- Whether it stands in a definition. -/
  isDefined : Bool
  /-- The selections that are known by name, from the inside out. -/
  frames : List (List NamedSelection) := []
  /-- Selections that cannot be meant here, and what is said about that. -/
  faults : List (Nat × String) := []
  /-- The views around it. -/
  within : List String := []
  /-- The columns of a view inside of some others. -/
  headsOf : List String → Table → Outlining (List Head)

namespace Outlining

/-- Fails because of something that makes no sense. -/
def complain {α : Type} (detail : String) : Outlining α := throw (.senseless detail)

/-- A number for a source. -/
def newCursor : Outlining Nat :=
  modifyGet fun drawing => (drawing.cursors, { drawing with cursors := drawing.cursors + 1 })

/-- A number for a branch. -/
def newBranch : Outlining Nat :=
  modifyGet fun drawing => (drawing.branches, { drawing with branches := drawing.branches + 1 })

/-- A number for a selection that others know by name. -/
def newShare : Outlining Nat :=
  modifyGet fun drawing => (drawing.shares, { drawing with shares := drawing.shares + 1 })

/-- Keeps an outline. -/
def keep (outline : Outline) : Outlining Nat :=
  modifyGet fun drawing =>
    (drawing.outlines.size, { drawing with outlines := drawing.outlines.push outline })

/-- The outline of that number. -/
def outline (number : Nat) : Outlining Outline :=
  return (← get).outlines.getD number default

end Outlining

/-! ## Names of columns -/

/-- The part of a name before a number that makes it different from others. -/
def stem (name : String) : String :=
  let backwards := name.toList.reverse
  match backwards.dropWhile Char.isDigit with
  | ':' :: rest => if rest.isEmpty then name else String.ofList rest.reverse
  | _ => name

/-- What is known of a column before it has a name of its own. -/
structure HeadTitle where
  name? : Option String
  isCommon : Bool := false
  isLeftOut : Bool := false

/-- Columns as far as they have names, and the names that are taken: whether one is that of a shared
column is said with it. -/
structure Naming where
  heads : Array Head := #[]
  taken : Std.HashMap String Bool := {}

namespace Naming

/-- A name that is not taken, and whether a shared column has one of those that were tried. -/
def free (naming : Naming) : (rounds tried : Nat) → (name : String) → (clashes : Bool) →
    String × Bool
  | 0, _, name, clashes => (name, clashes)
  | rounds + 1, tried, name, clashes =>
    match naming.taken[name.toLower]? with
    | none => (name, clashes)
    | some isCommon =>
      free naming rounds (tried + 1) (stem name ++ ":" ++ toString (tried + 1))
        (clashes || isCommon)

/-- One more column. -/
def add (naming : Naming) (title : HeadTitle) : Naming :=
  let count := naming.heads.size
  let isTruth := title.name?.all fun name => ["true", "false"].contains name.toLower
  let name := if isTruth then "column" ++ toString (count + 1) else title.name?.getD ""
  let (name, clashes) := naming.free (count + 1) 0 name false
  { heads := naming.heads.push { name, isShared := title.isLeftOut || clashes }
    taken := naming.taken.insert name.toLower title.isCommon }

end Naming

/-- Columns with names that differ from each other. -/
def Head.ofTitles (titles : List HeadTitle) : List Head :=
  (titles.foldl Naming.add {}).heads.toList

/-- Columns of these names. -/
def Head.ofNames (names : List String) : List Head :=
  Head.ofTitles (names.map fun name => { name? := some name })

/-- The name of the column that an expression is, if it is one. -/
def Expression.columnName? (expression : Expression) : Option String :=
  match expression.withoutCollation with
  | .column _ name _ => some name
  | .foreign _ _ name => some name
  | _ => none

/-- What a column of a result is called that has a label, and that is a column if it has a name. -/
def ResultLabel.title (label : ResultLabel) (name? : Option String) (isLeftOut : Bool) :
    HeadTitle :=
  match label with
  | .named name => { name? := some name, isLeftOut }
  | .written text => { name? := some (name?.getD text), isLeftOut }
  | .common name => { name? := some name, isCommon := true, isLeftOut }
  | _ => { name?, isLeftOut }

/-- The columns of a result as others see them. -/
def OutlineBranch.heads (branch : OutlineBranch) : List Head :=
  Head.ofTitles <| branch.results.map fun result =>
    result.label.title result.expression.columnName? result.isLeftOut

/-- The columns of a selection as others see them. -/
def Outline.heads (outline : Outline) : List Head :=
  ((outline.branches.head?).map (·.2.heads)).getD []

/-! ## Labels in joined sources -/

namespace ResultLabel

/-- Whether a label is of that schema, if one is given, and of that table, if one is given. -/
def isOf (schema? table? : Option String) : ResultLabel → Bool
  | .column schema table _ =>
    schema?.all (Table.sameName schema) && table?.all (Table.sameName table)
  | .rowid schema table =>
    schema?.all (Table.sameName schema) && table?.all (Table.sameName table)
  | .common _ => schema?.isNone && table?.isNone
  | _ => false

/-- Whether a label is that of a column which is asked for. -/
def isNamed (schema? table? : Option String) (name : String) (label : ResultLabel) : Bool :=
  label.isOf schema? table? &&
    match label with
    | .column _ _ own => Table.sameName own name
    | .common own => Table.sameName own name
    | _ => false

/-- Whether a label is that of the number of a row which is asked for. -/
def isRowidOf (schema? table? : Option String) (name : String) (label : ResultLabel) : Bool :=
  label.isOf schema? table? && Table.isRowidName name &&
    match label with
    | .rowid .. => true
    | _ => false

/-- Whether it is that of the number of a row. -/
def isRowid : ResultLabel → Bool
  | .rowid .. => true
  | _ => false

end ResultLabel

/-! ## Parts of selections -/

namespace Selection

/-- A selection of all columns of some sources. -/
def ofSources (sources : List Source) : Selection := .plain false [.all] sources none [] none []

/-- The branches of a selection, first to last, each with how it is put together with those
before. -/
def branches : Selection → List (Compound × Selection)
  | .compound op left right =>
    let last : Selection := match right with
      | .values (first :: second :: rest) =>
        .ofSources [.mk (.selection (.values (first :: second :: rest))) none {} none none]
      | right => right
    branches left ++ [(op, last)]
  | .values rows => rows.map fun row => (.unionAll, .values [row])
  | selection => [(.unionAll, selection)]

/-- A selection without its order, its order, and which of its rows are kept. -/
def unordered :
    Selection → Selection × List (Expression × Bool × Option Bool) × Option Expression
      × Option Expression
  | .ordered selection order limit? offset? => (selection, order, limit?, offset?)
  | selection => (selection, [], none, none)

/-- The sources that a branch names. -/
def sources : Selection → List Source
  | .plain _ _ sources _ _ _ _ => sources
  | _ => []

end Selection

/-- How often a source of a selection is that name. -/
def countNamed (name : String) (selection : Selection) : Nat :=
  (selection.sources.filter fun source =>
    match source with
    | .mk (.table none other _) _ _ _ _ => Table.sameName name other
    | .mk (.function none other _) _ _ _ _ => Table.sameName name other
    | _ => false).length

namespace OutlineSource

/-- Whether a column is shared with sources before. -/
def shares (source : OutlineSource) (name : String) : Bool :=
  source.shared?.any (·.any (Table.sameName name))

/-- The place of the column of that name. -/
def find? (source : OutlineSource) (name : String) : Option Nat :=
  source.source.heads.findIdx? (Table.sameName ·.name name)

/-- The place of the column of that name, unless it is hidden. -/
def findShown? (source : OutlineSource) (name : String) : Option Nat :=
  (source.find? name).filter fun n => !(source.source.heads[n]?.any (·.isHidden))

/-- The database that a source is of. -/
def schema (source : OutlineSource) : String :=
  match source.source.origin with
  | .table _ => "main"
  | .supplier _ => "main"
  | .query _ => if source.source.isView then "main" else "*"
  | .found => "*"

end OutlineSource

/-! ## Joins -/

/-- The first of some sources, from one place on, that has a column of that name, with its place
and that of the column. -/
def holderFrom? (sources : List OutlineSource) (start stop : Nat) (name : String)
    (isShown : Bool) : Option (Nat × Nat) :=
  ((List.range stop).drop start).findSome? fun n =>
    (sources[n]?).bind fun source =>
      ((if isShown then source.findShown? name else source.find? name)).map (n, ·)

/-- All sources before one that have a column that it shares, first to last. -/
def holdersFrom (sources : List OutlineSource) (stop : Nat) (name : String) (isShown : Bool) :
    (rounds start : Nat) → List (Nat × Nat)
  | 0, _ => []
  | rounds + 1, start =>
    match holderFrom? sources start stop name isShown with
    | none => []
    | some (n, column) =>
      (n, column) :: holdersFrom sources stop name isShown rounds (n + 1)

/-- The condition that a column is the same in a source as in those before. -/
def linkOf (sources : List OutlineSource) (n : Nat) (source : OutlineSource) (name : String) :
    Outlining OutlineCondition := do
  let right? := source.find? name
  let holders := holdersFrom sources n name source.isImplied n 0
  match right?, holders with
  | some right, first :: others =>
    let isRight := sources.head?.any (·.source.joining.isBeforeRight)
    let others := if isRight then others else []
    if others.any fun (m, _) => !((sources[m]?).any (·.shares name)) then
      Outlining.complain ("ambiguous reference to " ++ name ++ " in USING()")
    return {
      test := .linked (first :: others) (n, right)
      join? := some (source.source.cursor, source.source.joining.isOuter) }
  | _, _ =>
    Outlining.complain ("cannot join using column " ++ name
      ++ " - column not present in both tables")

/-- A source that shares all columns with those before that have the same name. -/
def implied (sources : List OutlineSource) (n : Nat) (source : OutlineSource) : OutlineSource :=
  let names := source.source.heads.filter fun head =>
    !head.isHidden && (holderFrom? sources 0 n head.name true).isSome
  if names.isEmpty then source
  else { source with shared? := some (names.map Head.name), isImplied := true }

/-- Sources that are joined by what is said about them, and the conditions for that. -/
def joinedSources (sources : List OutlineSource)
    (joins : List (JoinKind × Option Expression)) :
    Outlining (List OutlineSource × List OutlineCondition) := do
  let mut sources := sources
  let mut conditions : List OutlineCondition := []
  for ((kind, condition?), n) in joins.zipIdx do
    if n ≠ 0 then
      let mut source := sources.getD n default
      if kind.isNatural then
        if source.shared?.isSome || condition?.isSome then
          Outlining.complain "a NATURAL join may not have an ON or USING clause"
        source := implied sources n source
        sources := sources.set n source
      match source.shared?, condition? with
      | some names, _ =>
        for name in names do conditions := conditions ++ [← linkOf sources n source name]
      | none, some condition =>
        let join := (source.source.cursor, source.source.joining.isOuter)
        conditions := conditions ++ [{ test := .written condition, join? := some join }]
      | none, none => pure ()
  return (sources, conditions)

/-- How sources are joined. All sources before one that keeps its own rows may lack. -/
def joinings (kinds : List JoinKind) : List Joining :=
  let kinds := kinds.zipIdx.map fun (kind, n) => if n = 0 then ({} : JoinKind) else kind
  let lastRight? := (kinds.zipIdx.reverse.find? (·.1.keepsRight)).map (·.2)
  kinds.zipIdx.map fun (kind, n) =>
    { Joining.ofKind kind with isBeforeRight := lastRight?.any (n < ·) }

/-! ## All columns -/

/-- Whether a column of a source is shared with one behind it. -/
def isSharedBehind (sources : List OutlineSource) (n : Nat) (name : String) : Bool :=
  (sources.drop (n + 1)).any (·.shares name)

/-- The columns of a source that are meant by all columns, of one table or of all. -/
def spread (sources : List OutlineSource) (isJoin : Bool) (table? : Option String) (n : Nat)
    (source : OutlineSource) : List OutlineResult × Bool :=
  let title := source.source.title
  let isMeant := table?.all (Table.sameName title) || source.labels?.isSome
  if !isMeant then ([], false)
  else
    let behind? := (sources[n + 1]?).bind fun next => if isJoin then next.shared? else none
    let commons := (behind?.getD []).map fun (name : String) =>
      ({ expression := .column none name false, label := .common name } : OutlineResult)
    let label? (j : Nat) : Option ResultLabel := source.labels?.bind (·[j]?)
    let isShown (j : Nat) (head : Head) : Bool :=
      !(label? j).any ResultLabel.isRowid
      && (label? j).all (·.isOf none table?)
      && !head.isHidden && !(head.isShared && table?.isNone && !isJoin)
    let shown := source.source.heads.zipIdx.filter fun (head, j) => isShown j head
    let numbers : List (Head × Nat) :=
      if isJoin && source.source.hasRowid && source.labels?.isNone then
        let free? := ["_ROWID_", "ROWID", "OID"].find? fun name => (source.find? name).isNone
        free?.toList.map fun name => ({ name }, source.source.heads.length)
      else []
    let kept := (shown ++ numbers).filter fun (head, _) =>
      !(0 < n && table?.isNone && !isJoin && source.shares head.name)
    let isFull (name : String) : Bool := 1 < sources.length &&
      (!source.source.joining.isBeforeRight || isJoin || !isSharedBehind sources n name)
    let expression (name : String) : Expression :=
      if !isFull name then .column none name false
      else if source.labels?.isSome then .column (some title) name false
      else .foreign source.schema title name
    let result (head : Head) (j : Nat) : OutlineResult :=
      if !isJoin then { expression := expression head.name, label := .named head.name }
      else
        let label := match label? j with
          | some label => label
          | none =>
            if j < source.source.heads.length then .column source.schema title head.name
            else .rowid source.schema title
        let isLeftOut := source.shares head.name ||
          behind?.any (·.any (Table.sameName head.name)) || head.isShared
        { expression := expression head.name, label, isLeftOut }
    (commons ++ kept.map fun (head, j) => result head j, !(shown ++ numbers).isEmpty)

/-- The columns that are meant by all columns, of one table or of all. -/
def spreadAll (sources : List OutlineSource) (isJoin : Bool) (table? : Option String) :
    Outlining (List OutlineResult) := do
  let found := sources.zipIdx.map fun (source, n) => spread sources isJoin table? n source
  if found.any (·.2) then return found.flatMap (·.1)
  else
    match table? with
    | some table => throw (.noSuchTable table)
    | none => Outlining.complain "no tables specified"

/-- The greatest number of columns of a result. -/
def maxResults : Nat := 2000

/-! ## Finding sources -/

namespace Surroundings

/-- The selection that a name stands for, and the frames from the one on in which it is. -/
def namedIn? (name : String) :
    List (List NamedSelection) → Option (NamedSelection × List (List NamedSelection))
  | [] => none
  | frame :: outer =>
    match frame.find? fun named => Table.sameName named.name name with
    | some named => some (named, frame :: outer)
    | none => namedIn? name outer

/-- Surroundings in which some selections have names. -/
def naming (around : Surroundings)
    (names : List (String × List String × Option Bool × Selection)) :
    Outlining Surroundings := do
  let frame ← names.mapM fun (name, columns, isApart?, selection) => do
    return ({ number := ← Outlining.newShare, name, columns, isApart?, selection }
      : NamedSelection)
  return { around with frames := frame :: around.frames }

/-- Surroundings in which a selection cannot be meant. -/
def faulting (around : Surroundings) (number : Nat) (complaint : String) : Surroundings :=
  { around with faults := (number, complaint) :: around.faults }

/-- What a name stands for that no selection has. -/
def located (around : Surroundings) (name : String) : Outlining SourceOrigin := do
  match around.schema.table? name with
  | some table =>
    match table.module? with
    | none => return .table table
    | some (module, _) =>
      match Supplier.ofModule? module with
      | some supplier => return .supplier supplier
      | none => Outlining.complain ("no such module: " ++ module)
  | none =>
    match Supplier.find? name with
    | some supplier =>
      if supplier.isReserved && around.isDefined then
        Outlining.complain ("unsafe use of virtual table \"" ++ supplier.name ++ "\"")
      return .supplier supplier
    | none => throw (.noSuchTable ((if around.isDefined then "main." else "") ++ name))

/-- Checks that there is an index of the name that is asked for. -/
def checkHint (origin : SourceOrigin) (hint? : Option IndexHint) : Outlining Unit := do
  match hint?, origin with
  | some (.named name), .table table =>
    unless table.indexes.any (Table.sameName ·.name name) do
      Outlining.complain ("no such index: " ++ name)
  | some (.named name), _ => Outlining.complain ("no such index: " ++ name)
  | _, _ => return

/-- The source that a table is, or a function that gives rows. -/
def found (name : String) (alias? : Option String) (origin : SourceOrigin)
    (hint? : Option IndexHint := none) : Outlining OutlineSource := do
  checkHint origin hint?
  let heads := match origin with
    | .table table => table.heads
    | .supplier supplier => supplier.heads
    | _ => []
  let name := match origin with
    | .table table => table.name
    | _ => name
  return { source := { cursor := ← Outlining.newCursor, name, alias?, origin, heads, hint? } }

/-- The number of branches at the end of a selection that find rows from those that were found
before by that name. -/
def recursions (name : String) (parts : List (Compound × Selection)) : Nat :=
  match parts.getLast? with
  | some (op, _) =>
    let mayRecur := op = .union || op = .unionAll
    ((parts.drop 1).reverse.takeWhile fun part =>
      mayRecur && part.1 = op && 0 < countNamed name part.2).length
  | none => 0

mutual

/-- Keeps the outline of a selection. -/
def outline : (rounds : Nat) → Surroundings → Selection → Outlining Nat
  | 0, _, _ => Outlining.complain "parser stack overflow"
  | _ + 1, _, .known number => return number
  | rounds + 1, around, .withNames names selection => do
    outline rounds (← around.naming names) selection
  | rounds + 1, around, selection => do
    let (selection, order, limit?, offset?) := selection.unordered
    let (branches, order, limit?, offset?) ←
      branchesOf rounds around none selection.branches order limit? offset?
    Outlining.keep { branches, order, limit?, offset? }

/-- The branches of a selection, its order, and which of its rows are kept. One of its sources may
be found already. -/
def branchesOf : (rounds : Nat) → Surroundings → (self? : Option (String × OutlineSource)) →
    List (Compound × Selection) → List (Expression × Bool × Option Bool) → Option Expression →
    Option Expression →
    Outlining (List (Compound × OutlineBranch) × List (Expression × Bool × Option Bool)
      × Option Expression × Option Expression)
  | 0, _, _, _, _, _, _ => Outlining.complain "parser stack overflow"
  | rounds + 1, around, self?, parts, order, limit?, offset? => do
    let known (selection : Selection) : Outlining Selection :=
      return .known (← outline rounds around selection)
    let mut found : List (Compound × OutlineBranch) := []
    let mut ending := (order, limit?, offset?)
    for ((op, part), n) in parts.zipIdx.reverse do
      let branch ← branchOf rounds around self? false part
      if n + 1 = parts.length then
        let order ← Expression.replaceTerms known order
        let limit? ← Expression.replaceOption known limit?
        ending := (order, limit?, ← Expression.replaceOption known offset?)
      found := (op, branch) :: found
    return (found, ending)

/-- A branch of a selection. -/
def branchOf : (rounds : Nat) → Surroundings → (self? : Option (String × OutlineSource)) →
    (isJoin : Bool) → Selection → Outlining OutlineBranch
  | 0, _, _, _, _ => Outlining.complain "parser stack overflow"
  | rounds + 1, around, self?, isJoin, part => do
    let known (selection : Selection) : Outlining Selection :=
      return .known (← outline rounds around selection)
    let number ← Outlining.newBranch
    match part with
    | .plain isDistinct columns sources condition? groups having? windows => do
      let found ← sources.mapM (bindSource rounds around self?)
      let kinds := sources.map fun source => match source with
        | .mk _ _ join condition? _ => (join, condition?)
      let found := found.zipWith (fun source joining =>
        { source with source := { source.source with joining } }) (joinings (kinds.map (·.1)))
      let (found, links) ← joinedSources found kinds
      let results ← columns.mapM fun column =>
        match column with
        | .all => spreadAll found isJoin none
        | .allOf table => spreadAll found isJoin (some table)
        | .value expression name? text =>
          let label := match name? with
            | some name => ResultLabel.named name
            | none => .written text
          pure [({ expression, label } : OutlineResult)]
      let results := results.flatten
      if maxResults < results.length then
        Outlining.complain "too many columns in result set"
      let results ← results.mapM fun result => do
        return { result with expression := ← result.expression.replaceSelections known }
      let own : List OutlineCondition :=
        (condition?.map fun condition => { test := .written condition }).toList
      let conditions ← (own ++ links).mapM fun condition =>
        match condition.test with
        | .written expression => do
          return { condition with test := .written (← expression.replaceSelections known) }
        | .linked .. => pure condition
      let groups ← Expression.replaceAll known groups
      let having? ← Expression.replaceOption known having?
      let found ← found.mapM fun source => do
        return { source with arguments := ← Expression.replaceAll known source.arguments }
      return { number, isDistinct, results, sources := found, conditions, groups, having?, windows
               isRecursive := self?.isSome, isJoin }
    | .values rows => do
      let results ← (rows.headD []).mapM fun expression => do
        return ({ expression := ← expression.replaceSelections known, label := .blank }
          : OutlineResult)
      return { number, results, isValues := true }
    | _ => Outlining.complain "parser stack overflow"

/-- Finds a source, unless it is found already. -/
def bindSource : (rounds : Nat) → Surroundings → (self? : Option (String × OutlineSource)) →
    Source → Outlining OutlineSource
  | 0, _, _, _ => Outlining.complain "parser stack overflow"
  | rounds + 1, around, self?, .mk origin alias? _ _ shared? => do
    let source ← match origin with
      | .selection selection =>
        let number ← outline rounds around selection
        let cursor ← Outlining.newCursor
        let heads := (← Outlining.outline number).heads
        pure ({ source := { cursor, name := "(" ++ toString cursor ++ ")", alias?
                            origin := .query number, heads } } : OutlineSource)
      | .sources sources =>
        let branch ← branchOf rounds around none true (.ofSources sources)
        let number ← Outlining.keep { branches := [(.unionAll, branch)] }
        let cursor ← Outlining.newCursor
        pure ({ source := { cursor, name := "(" ++ toString cursor ++ ")", alias?
                            origin := .query number, heads := branch.heads }
                labels? := some (branch.results.map (·.label)) } : OutlineSource)
      | .table schema? name hint? =>
        bindTitle rounds around self? schema?.isNone name alias? hint?
      | .function schema? name arguments =>
        let source ← bindTitle rounds around self? schema?.isNone name alias? none
        match source.source.origin with
        | .supplier _ => pure { source with arguments }
        | _ => Outlining.complain ("'" ++ name ++ "' is not a function")
    return { source with shared? }

/-- Finds what a name stands for: a selection that has the name, or else a table, a view or a
function that gives rows. -/
def bindTitle : (rounds : Nat) → Surroundings → (self? : Option (String × OutlineSource)) →
    (mayBeNamed : Bool) → (name : String) → (alias? : Option String) → Option IndexHint →
    Outlining OutlineSource
  | 0, _, _, _, _, _, _ => Outlining.complain "parser stack overflow"
  | rounds + 1, around, self?, mayBeNamed, name, alias?, hint? => do
    match self?.filter fun self => mayBeNamed && Table.sameName self.1 name with
    | some (_, self) => return { self with source := { self.source with alias? } }
    | none =>
      match if mayBeNamed then namedIn? name around.frames else none with
      | some (named, frames) => bindNamed rounds { around with frames } named alias? hint?
      | none =>
        let origin ← around.located name
        match origin with
        | .table table =>
          match table.view? with
          | none => found name alias? origin hint?
          | some (_, selection) =>
            let heads ← around.headsOf around.within table
            let inside : Surroundings :=
              { schema := around.schema, isDefined := true, headsOf := around.headsOf
                within := table.name :: around.within }
            let number ← outline rounds inside selection
            checkHint origin hint?
            return { source := { cursor := ← Outlining.newCursor, name := table.name, alias?
                                 origin := .query number, heads, isView := true } }
        | origin => found name alias? origin hint?

/-- Finds the rows of a selection that has a name. -/
def bindNamed : (rounds : Nat) → Surroundings → NamedSelection → (alias? : Option String) →
    Option IndexHint → Outlining OutlineSource
  | 0, _, _, _, _ => Outlining.complain "parser stack overflow"
  | rounds + 1, around, named, alias?, hint? => do
    if let some (_, complaint) := around.faults.find? (·.1 = named.number) then
      Outlining.complain (complaint ++ named.name)
    if let some (.named index) := hint? then
      Outlining.complain ("no such index: \"" ++ index ++ "\"")
    let headsWith (first? : Option OutlineBranch) : Outlining (List Head) := do
      let count := (first?.map (·.results.length)).getD 0
      if named.columns.isEmpty then return (first?.map OutlineBranch.heads).getD []
      else if count ≠ named.columns.length then
        Outlining.complain ("table " ++ named.name ++ " has " ++ toString count
          ++ " values for " ++ toString named.columns.length ++ " columns")
      else return Head.ofNames named.columns
    let circular := around.faulting named.number "circular reference: "
    let (inside, selection) ← match named.selection with
      | .withNames names selection => pure (← circular.naming names, selection)
      | selection => pure (circular, selection)
    let (selection, order, limit?, offset?) := selection.unordered
    let parts := selection.branches
    let count := recursions named.name parts
    if (parts.drop (parts.length - count)).any fun part => 1 < countNamed named.name part.2 then
      Outlining.complain ("multiple references to recursive table: " ++ named.name)
    let cursor ← Outlining.newCursor
    let source : QuerySource :=
      { cursor, name := named.name, alias?, origin := .found, heads := []
        shared? := some { number := named.number, isApart? := named.isApart? } }
    let (outline, heads) ←
      if count = 0 then
        let (branches, order, limit?, offset?) ←
          branchesOf rounds inside none parts order limit? offset?
        pure (({ branches, order, limit?, offset? } : Outline),
          ← headsWith ((branches.head?).map (·.2)))
      else
        let (start, _) ←
          branchesOf rounds inside none (parts.take (parts.length - count)) [] none none
        let heads ← headsWith ((start.head?).map (·.2))
        let self : OutlineSource :=
          { source := { source with cursor := ← Outlining.newCursor, heads, shared? := none } }
        let again :=
          { inside with faults :=
              (named.number, "multiple recursive references: ") :: around.faults }
        let (more, order, limit?, offset?) ←
          branchesOf rounds again (some (named.name, self))
            (parts.drop (parts.length - count)) order limit? offset?
        pure ({ branches := start ++ more, order, limit?, offset? }, heads)
    let number ← Outlining.keep outline
    return { source := { source with origin := .query number, heads } }

end

/-- The greatest depth of selections in each other. -/
def maxDepth : Nat := 1000

end Surroundings
end AppCatalog
