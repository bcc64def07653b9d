import AppCatalog.Query.Book
import AppCatalog.Query.Lookup

/-!
# From outlines to queries

What the names in a selection stand for. A name that stands for nothing, or for two things, is
refused; so is a function that is not known or may not be called where it stands. A complaint about
a function waits until the rest of its expression is looked at, and gives way to one that comes up
there.
-/

namespace AppCatalog

/-- What names are looked up in. -/
structure Directory where
  encoding : Encoding
  outlines : Array Outline := #[]
  /-- Rows that can be spoken of everywhere. -/
  given : List GivenRow := []

/-- How far the looking up of names is. -/
structure Resolving where
  book : Book := #[]
  /-- The rows that can be spoken of, from the inside out. -/
  sights : List Sight := []
  /-- A complaint that waits. -/
  pending? : Option SqlError := none
  /-- Whether functions may be called that are not known. -/
  isLenient : Bool := false

/-- What is done to look up names. -/
abbrev Resolution : Type → Type := StateT Resolving (Except SqlError)

namespace Resolution

/-- Fails because of something that makes no sense. -/
def complain {α : Type} (detail : String) : Resolution α := throw (.senseless detail)

/-- Complains unless the rest of the expression gives more reason to. -/
def grumble (detail : String) : Resolution Unit :=
  modify fun state => { state with pending? := some (.senseless detail) }

/-- Fails if a complaint waits. -/
def settle : Resolution Unit := do
  if let some cause := (← get).pending? then throw cause

/-- The innermost rows. -/
def sight : Resolution Sight := return (← get).sights.headD {}

/-- Changes what is known of the innermost rows. -/
def changeSight (f : Sight → Sight) : Resolution Unit :=
  modify fun state =>
    match state.sights with
    | [] => state
    | first :: outer => { state with sights := f first :: outer }

/-- Does something where only some rows can be spoken of. -/
def among {α : Type} (sights : List Sight) (act : Resolution α) : Resolution α := do
  let before := (← get).sights
  modify fun state => { state with sights }
  let result ← act
  modify fun state => { state with sights := before }
  return result

/-- Does something where more rows can be spoken of, and tells what became of them. -/
def within {α : Type} (sight : Sight) (act : Resolution α) : Resolution (α × Sight) := do
  modify fun state => { state with sights := sight :: state.sights }
  let result ← act
  let inner := (← get).sights.headD sight
  modify fun state => { state with sights := state.sights.drop 1 }
  return (result, inner)

/-- Tries something, which changes nothing. -/
def attempt {α : Type} (act : Resolution α) : Resolution (Option α) := fun state =>
  match act.run state with
  | .ok (result, _) => .ok (some result, state)
  | .error _ => .ok (none, state)

/-- Notes that rows are spoken of, from the inside out to some depth. -/
def refer (depth : Nat) : Resolution Unit :=
  modify fun state =>
    { state with sights := state.sights.zipIdx.map fun (sight, n) =>
        if n < depth then { sight with references := sight.references + 1 } else sight }

end Resolution

namespace Directory

/-- The number of columns of a selection. -/
def width (directory : Directory) (number : Nat) : Nat :=
  match (directory.outlines.getD number default).branches.getLast? with
  | some (_, branch) => branch.results.length
  | none => 0

/-- The number of values that an expression stands for. -/
def widthOf (directory : Directory) : Expression → Nat
  | .row items => items.length
  | .scalar (.known number) => directory.width number
  | _ => 1

end Directory

/-! ## Columns of columns -/

namespace Book

/-- Queries in which the columns of a source are known to be like those of a result. -/
def told (book : Book) (cursor : Nat) (heads : List Head) : Book :=
  let tell (part : Term) : Option Term :=
    match part with
    | .field column =>
      if column.cursor ≠ cursor then none
      else
        match column.column?.bind (heads[·]?) with
        | some head =>
          some (.field { column with affinity? := head.affinity?, collation? := head.collation? })
        | none => none
    | _ => none
  book.map fun query =>
    { query with branches := query.branches.map fun (op, branch) =>
        let branch := branch.replace tell
        (op, { branch with sources := branch.sources.map fun source =>
          if source.cursor = cursor then { source with heads } else source }) }

end Book

/-- The condition that a column has the same value in a source as in those before. -/
def linkTerm (sources : List OutlineSource) (left : List (Nat × Nat)) (right : Nat × Nat) : Term :=
  let field (place : Nat × Nat) : Term :=
    match sources[place.1]? with
    | some source => .field (source.source.field (some place.2))
    | none => default
  let first := match left.map field with
    | [single] => single
    | several => .call "coalesce" several
  .binary .eq first (field right)

/-! ## Functions -/

/-- The windows whose rows are counted in a certain way, whatever is said about them. -/
def fixedPane? (function : String) : Option (FrameUnit × PaneEdge × PaneEdge) :=
  let one : Term := .constant (.integer 1)
  match function.toLower with
  | "row_number" => some (.rows, .unboundedPreceding, .currentRow)
  | "dense_rank" => some (.range, .unboundedPreceding, .currentRow)
  | "rank" => some (.range, .unboundedPreceding, .currentRow)
  | "percent_rank" => some (.groups, .currentRow, .unboundedFollowing)
  | "cume_dist" => some (.groups, .following one, .unboundedFollowing)
  | "ntile" => some (.rows, .currentRow, .unboundedFollowing)
  | "lead" => some (.rows, .unboundedPreceding, .unboundedFollowing)
  | "lag" => some (.rows, .unboundedPreceding, .currentRow)
  | _ => none

/-- Whether an edge is at a distance. -/
def FrameEdge.isDistant : FrameEdge → Bool
  | .preceding _ => true
  | .following _ => true
  | _ => false

/-- Whether rows without a value are moved to the other end. -/
def movesNull (descending : Bool) (nullsFirst? : Option Bool) : Bool :=
  nullsFirst?.any (· = descending)

/-- Whether a number is a likelihood. -/
def isLikelihood : Expression → Bool
  | .real bits =>
    match (Double.ofBits bits).compareRatio (1, 1) with
    | .gt => false
    | _ => true
  | _ => false

/-- Complains about a function with so many arguments that may not be called here. The answer is
what is known of it, if it can be called as one of several rows. -/
def checkFunction (name : String) (arguments : List Expression)
    (hasOrder hasFilter hasWindow : Bool) : Resolution (Option FunctionRule) := do
  let sight ← Resolution.sight
  let count := arguments.length
  let rule? := FunctionRule.find? name count
  let isAggregate := rule?.any (·.isAggregate)
  let isForWindows := rule?.any (·.kind = .window)
  if name.toLower = "load_extension" && (count = 1 || count = 2) then
    Resolution.grumble "unsafe use of load_extension()"
    return none
  if name.toLower = "likelihood" && count = 2 && !(arguments[1]?).any isLikelihood then
    Resolution.grumble
      ("second argument to " ++ name ++ "() must be a constant between 0.0 and 1.0")
  if rule?.isSome && !isAggregate && hasWindow then
    Resolution.grumble (name ++ "() may not be used as a window function")
    return none
  let isMisused := isAggregate &&
    (!sight.mayAggregate || (isForWindows && !hasWindow) || (hasWindow && !sight.mayWindow))
  if isMisused then
    Resolution.grumble ("misuse of " ++ (if isForWindows || hasWindow then "window" else "aggregate")
      ++ " function " ++ name ++ "()")
    return none
  match rule? with
  | none =>
    if (FunctionRule.named name).isEmpty then
      unless (← get).isLenient do Resolution.grumble ("no such function: " ++ name)
    else Resolution.grumble ("wrong number of arguments to function " ++ name ++ "()")
    return none
  | some rule =>
    if !isAggregate && hasFilter then
      Resolution.grumble ("FILTER may not be used with non-aggregate " ++ name ++ "()")
    else if !isAggregate && hasOrder then
      Resolution.grumble ("ORDER BY may not be used with non-aggregate " ++ name ++ "()")
    return if isAggregate then some rule else none

/-- The rows around a row that are meant, from the windows that have names. -/
def windowFor (window : Window) : Resolution Window := do
  let windows := (← Resolution.sight).windows
  match window with
  | .named name =>
    match windows.find? fun one => one.1.toLower = name.toLower with
    | some (_, window) => return window
    | none => Resolution.complain ("no such window: " ++ name)
  | window =>
    match Parse.linkedTo windows window with
    | .ok window => return window
    | .error detail => Resolution.complain detail

/-! ## Expressions -/

/-- What a complaint calls a column. -/
def columnTitle (schema? table? : Option String) (name : String) : String :=
  String.intercalate "." (schema?.toList ++ table?.toList ++ [name])

/-- What a name stands for. -/
def nameTerm (directory : Directory) (schema? table? : Option String) (name : String)
    (isQuoted : Bool) : Resolution Term := do
  let sights := (← get).sights
  let (meaning, depth) := Sight.lookAll directory.given schema? table? name sights 0
  let title := columnTitle schema? table? name
  match meaning with
  | .field field =>
    Resolution.refer depth
    return .field field
  | .firstOf fields =>
    Resolution.refer depth
    return .call "coalesce" (fields.map fun field => .field { field with isOuter := true })
  | .alias one =>
    let here := sights.getD (depth - 1) {}
    let title := one.name?.getD name
    if one.hasAggregate && !here.mayAggregate then
      Resolution.complain ("misuse of aliased aggregate " ++ title)
    if one.hasWindow && (!here.mayWindow || 1 < depth) then
      Resolution.complain ("misuse of aliased window function " ++ title)
    if one.width ≠ 1 then Resolution.complain "row value misused"
    Resolution.refer depth
    return one.term
  | .ambiguous => Resolution.complain ("ambiguous column name: " ++ title)
  | .absent =>
    if table?.isNone && isQuoted then return .constant (.ofString directory.encoding name)
    else if table?.isNone && ["true", "false"].contains name.toLower then
      return .truth (name.toLower = "true")
    else Resolution.complain ("no such column: " ++ title)

/-- Checks that as many values are compared with each other on both sides. -/
def checkWidths (directory : Directory) (left : Expression) (others : List Expression) :
    Resolution Unit := do
  unless others.all fun other => directory.widthOf other = directory.widthOf left do
    Resolution.complain "row value misused"

/-- Whether an expression may turn out to be true or false by its name. -/
def mayBeTruth (expression : Expression) : Bool :=
  match expression.withoutCollation with
  | .column .. => true
  | .truth _ => true
  | _ => false

/-- What a function of several rows is of: the innermost rows that its parts speak of, if they
speak of any. -/
def ownerOf (terms : List Term) : Resolution (Option Nat) := do
  let state ← get
  let book := state.book
  let isOwner (sight : Sight) : Bool :=
    let cursors := sight.sources.map (·.source.cursor)
    book.speaksOf? cursors terms ≠ some false
  match state.sights.findIdx? isOwner with
  | some n => return some n
  | none => return none

/-- Notes that a function is one of several rows. -/
def noteAggregate (depth : Nat) (rule : FunctionRule) : Resolution Unit :=
  modify fun state =>
    { state with sights := state.sights.modify depth fun sight =>
        { sight with
          hasAggregate := true, hasExtreme := sight.hasExtreme || rule.isExtreme
          needsOrder := sight.needsOrder || !rule.ignoresOrder } }

/-- Checks that a function can be of the rows around a row. -/
def checkPane (rule : FunctionRule) (hasFilter : Bool) (orderCount : Nat)
    (frame? : Option Frame) : Resolution Unit := do
  let isDistant := match frame? with
    | some (.mk .range start stop _) => start.isDistant || stop.isDistant
    | _ => false
  if isDistant && orderCount ≠ 1 then
    Resolution.complain
      "RANGE with offset PRECEDING/FOLLOWING requires one ORDER BY expression"
  if rule.kind = .window && hasFilter then
    Resolution.complain "FILTER clause may only be used with aggregate window functions"

/-- The rows around a row, of which some things are fixed by the function. -/
def paneOf (rule : FunctionRule) (partition : List Term) (order : List TermOrder)
    (frame? : Option Frame) (start stop : PaneEdge) : Pane :=
  let isImplicit := frame?.isNone
  match if rule.kind = .window then fixedPane? rule.name else none with
  | some (unit, start, stop) => .mk partition order { unit, isImplicit } start stop
  | none =>
    match frame? with
    | some (.mk unit _ _ exclusion) =>
      .mk partition order { unit, exclusion, isImplicit } start stop
    | none => .mk partition order {} start stop

/-- An operand with a sign that says the opposite, if it is wanted. -/
def negatedIf (negated : Bool) (term : Term) : Term := if negated then .unary .not term else term

/-- Whether an expression is the same whatever else there is, without any call. -/
def isPlain (expression : Expression) : Bool :=
  expression.isConstant && !Parse.hasCall expression

/-- The whole number that an expression is, if it is written as one that is not great. -/
def smallNumber? : Expression → Option Int
  | .integer n => if n < 0x80000000 then some n else none
  | .unary .plus operand => smallNumber? operand
  | .unary .minus operand => (smallNumber? operand).map fun n => -n
  | _ => none

/-- A place in a list as it is counted in words. -/
def ordinal (n : Nat) : String :=
  let ending :=
    if n % 100 / 10 = 1 then "th"
    else match n % 10 with
      | 1 => "st"
      | 2 => "nd"
      | 3 => "rd"
      | _ => "th"
  toString n ++ ending

/-- Complains that there is no column of the result of that number. -/
def outOfRange {α : Type} (what : String) (n columns : Nat) : Resolution α :=
  Resolution.complain (ordinal (n + 1) ++ " " ++ what
    ++ " BY term out of range - should be between 1 and " ++ toString columns)

/-- The column of the result that has the name that an expression is. -/
def placeOfName? (aliases : List ResultAlias) (expression : Expression) : Option Nat :=
  match expression with
  | .column none name _ => aliases.findIdx? fun one => one.name?.any (Table.sameName name)
  | _ => none

/-- A term with the order of texts that is said outermost in an expression. -/
def collatedLike (expression : Expression) (term : Term) : Term :=
  match expression with
  | .collate _ name => .collate term (Collation.ofName name) true
  | _ => term

/-- A number with all orders of texts that are said outermost in an expression. -/
def collatedNumber (number : Nat) : Expression → Term
  | .collate operand name =>
    .collate (collatedNumber number operand) (Collation.ofName name) true
  | _ => .constant (.integer number)

/-- What a result column of an outline is called where it was given a name. -/
def OutlineResult.name? (result : OutlineResult) : Option String :=
  match result.label with
  | .named name => some name
  | _ => none

/-- The name of a column of a result whose names are looked up. -/
def OutlineResult.title (result : OutlineResult) (term : Term) : String :=
  match result.label, term.bare with
  | .named name, _ => name
  | _, .field field => field.name
  | .written text, _ => text
  | _, _ => (result.expression.columnName?).getD ""

/-- What an operator between selections is called. -/
def Compound.title : Compound → String
  | .union => "UNION"
  | .unionAll => "UNION ALL"
  | .except => "EXCEPT"
  | .intersect => "INTERSECT"

namespace Directory

mutual

/-- The term that an expression is. -/
def termOf (directory : Directory) : (rounds : Nat) → Expression → Resolution Term
  | 0, _ => Resolution.complain "parser stack overflow"
  | rounds + 1, expression => do
    let here := directory.termOf rounds
    match expression with
    | .null => return .constant .null
    | .integer value => return .constant (.integer value)
    | .real bits => return .constant (.ofBits bits)
    | .text value => return .constant (.ofString directory.encoding value)
    | .blob bytes => return .constant (.blob bytes)
    | .truth value => return .truth value
    | .tooLong text => return .tooLong text
    | .variable => return .parameter
    | .time shown => return .call shown []
    | .column table? name isQuoted => nameTerm directory none table? name isQuoted
    | .foreign schema table name => nameTerm directory (some schema) (some table) name false
    | .raise action message => return .raise action message
    | .collate operand name => do
      Resolution.settle
      return .collate (← here operand) (Collation.ofName name) true
    | .cast operand type => do
      Resolution.settle
      return .cast (← here operand) type
    | .unary op operand => do
      Resolution.settle
      return .unary op (← here operand)
    | .binary op left right => do
      Resolution.settle
      if (op = .is || op = .isNot) && mayBeTruth right then
        let truth ← here right
        match truth.uncollated with
        | .truth value => return .isTruth (← here left) value (op = .isNot)
        | _ =>
          checkWidths directory left [right]
          return .binary op (← here left) truth
      else
        if op.isComparison then checkWidths directory left [right]
        let left ← here left
        return .binary op left (← here right)
    | .isNull operand => directory.nullTest rounds true operand
    | .notNull operand => directory.nullTest rounds false operand
    | .like function negated arguments => do
      discard (checkFunction function arguments false false false)
      return negatedIf negated (.call function (← arguments.mapM here))
    | .between negated operand low high => do
      Resolution.settle
      checkWidths directory operand [low, high]
      let operand ← here operand
      let low ← here low
      return negatedIf negated (.between operand low (← here high))
    | .inList negated operand list => do
      Resolution.settle
      let operand ← here operand
      return negatedIf negated (.inList operand (← list.mapM here))
    | .inSelection negated operand selection => do
      let number ← directory.ask rounds selection
      return negatedIf negated (.inQuery (← here operand) number)
    | .exists selection => return .exists (← directory.ask rounds selection)
    | .scalar selection => return .scalar (← directory.ask rounds selection)
    | .case operand? branches otherwise? => do
      Resolution.settle
      let operand? ← operand?.mapM here
      let branches ← branches.mapM fun (condition, value) => do
        let condition ← here condition
        return (condition, ← here value)
      return .case operand? branches (← otherwise?.mapM here)
    | .call function isDistinct arguments =>
      directory.callOf rounds function isDistinct arguments [] none none
    | .callAll function => directory.callOf rounds function false [] [] none none
    | .callOver function _ isDistinct arguments order filter? window? =>
      directory.callOf rounds function isDistinct arguments order filter? window?
    | .row items => do
      Resolution.settle
      return .row (← items.mapM here)

/-- Whether an operand has no value, or has one. A column that always has one need not be asked
where rows are chosen. -/
def nullTest (directory : Directory) : (rounds : Nat) → (isNull : Bool) → Expression →
    Resolution Term
  | 0, _, _ => Resolution.complain "parser stack overflow"
  | rounds + 1, isNull, operand => do
    let before := (← get).sights
    let operand ← directory.termOf rounds operand
    if !operand.mayBeNull && before.all (·.isCondition) then
      modify fun state => { state with sights := before }
      return .constant (.integer (if isNull then 0 else 1))
    else return if isNull then .isNull operand else .notNull operand

/-- The number of a selection in an expression, whose names are looked up. -/
def ask (directory : Directory) : (rounds : Nat) → Selection → Resolution Nat
  | 0, _ => Resolution.complain "parser stack overflow"
  | rounds + 1, selection =>
    match selection with
    | .known number => do
      let before := (← Resolution.sight).references
      directory.queryOf rounds number
      let isCorrelated := before < (← Resolution.sight).references
      modify fun state =>
        { state with book := state.book.modify number fun query =>
            { query with isCorrelated } }
      Resolution.settle
      return number
    | _ => Resolution.complain "parser stack overflow"

/-- What rows are ordered by. -/
def ordersOf (directory : Directory) : (rounds : Nat) →
    List (Expression × Bool × Option Bool) → Resolution (List TermOrder)
  | 0, _ => Resolution.complain "parser stack overflow"
  | rounds + 1, order =>
    order.mapM fun (expression, descending, nullsFirst?) => do
      let term ← directory.termOf rounds expression
      return .mk term descending (movesNull descending nullsFirst?) none

/-- The call of a function. -/
def callOf (directory : Directory) : (rounds : Nat) → (function : String) → (isDistinct : Bool) →
    List Expression → List (Expression × Bool × Option Bool) → Option Expression →
    Option Window → Resolution Term
  | 0, _, _, _, _, _, _ => Resolution.complain "parser stack overflow"
  | rounds + 1, function, isDistinct, arguments, order, filter?, window? => do
    let here := directory.termOf rounds
    match ← checkFunction function arguments (!order.isEmpty) filter?.isSome window?.isSome with
    | none => return .call function (← arguments.mapM here)
    | some rule =>
      let before ← Resolution.sight
      let isWindow := window?.isSome
      Resolution.changeSight fun sight =>
        { sight with mayWindow := false, mayAggregate := sight.mayAggregate && isWindow }
      let arguments ← arguments.mapM here
      let order ← directory.ordersOf rounds order
      let term ← match window? with
        | some window => do
          Resolution.settle
          match ← windowFor window with
          | .defined _ partition windowOrder frame? =>
            let (start, stop) := match frame? with
              | some (.mk _ start stop _) => (start, stop)
              | none => (.unboundedPreceding, .currentRow)
            let start ← directory.edgeOf rounds start
            let stop ← directory.edgeOf rounds stop
            checkPane rule filter?.isSome windowOrder.length frame?
            let partition ← partition.mapM here
            let windowOrder ← directory.ordersOf rounds windowOrder
            let filter? ← filter?.mapM here
            let pane := paneOf rule partition windowOrder frame? start stop
            Resolution.changeSight fun sight => { sight with hasWindow := true }
            pure (Term.window function arguments filter? pane)
          | .named name => Resolution.complain ("no such window: " ++ name)
        | none => do
          let filter? ← filter?.mapM here
          let depth? ← ownerOf (arguments ++ order.map TermOrder.term ++ filter?.toList)
          if let some depth := depth? then noteAggregate depth rule
          let sights := (← get).sights
          let owner? := (depth?.bind (sights[·]?)).bind Sight.branch?
          pure (Term.aggregate owner? function isDistinct arguments order filter?)
      Resolution.changeSight fun sight =>
        { sight with
          mayWindow := sight.mayWindow || before.mayWindow
          mayAggregate := sight.mayAggregate || before.mayAggregate }
      return term

/-- An edge of the rows around a row. A distance that is not plainly the same for all rows is
nothing at all. -/
def edgeOf (directory : Directory) : (rounds : Nat) → FrameEdge → Resolution PaneEdge
  | 0, _ => Resolution.complain "parser stack overflow"
  | rounds + 1, edge => do
    let distance (expression : Expression) : Resolution Term :=
      if isPlain expression then directory.termOf rounds expression
      else pure (.constant .null)
    match edge with
    | .unboundedPreceding => return .unboundedPreceding
    | .preceding expression => return .preceding (← distance expression)
    | .currentRow => return .currentRow
    | .following expression => return .following (← distance expression)
    | .unboundedFollowing => return .unboundedFollowing

/-- What the rows of a branch are ordered or grouped by. -/
def placedOrder (directory : Directory) : (rounds : Nat) → (what : String) →
    (results : List ResultAlias) → List (Expression × Bool × Option Bool) →
    Resolution (List TermOrder)
  | 0, _, _, _ => Resolution.complain "parser stack overflow"
  | rounds + 1, what, results, order => do
    let found ← order.zipIdx.mapM fun ((expression, descending, nullsFirst?), n) => do
      let bare := expression.withoutCollation
      let named? := if what = "ORDER" then placeOfName? results bare else none
      let place? : Option Nat × Term ← match named?, smallNumber? bare with
        | some place, _ => pure (some place, default)
        | none, some number =>
          if number < 1 || 0xFFFF < number then outOfRange what n results.length
          else pure (some (number.toNat - 1), default)
        | none, none => do
          let term ← directory.termOf rounds expression
          Resolution.settle
          let places := (results.zipIdx.filter fun (result, _) => term.isSame result.term)
          pure ((places.getLast?).map (·.2), term)
      return (place?, expression, descending, movesNull descending nullsFirst?)
    found.zipIdx.mapM fun (((place?, term), expression, descending, movesNull), n) => do
      match place? with
      | none => return .mk term descending movesNull none
      | some place =>
        match results[place]? with
        | none => outOfRange what n results.length
        | some result =>
          return .mk (collatedLike expression result.term) descending movesNull (some place)

/-- A branch whose names are looked up. -/
def branchOf (directory : Directory) : (rounds : Nat) →
    (order : List (Expression × Bool × Option Bool)) → OutlineBranch →
    Resolution (Branch × List TermOrder)
  | 0, _, _ => Resolution.complain "parser stack overflow"
  | rounds + 1, order, outline => do
    let outer := (← get).sights
    let sources ← outline.sources.mapM fun source => do
      match source.source.origin with
      | .query number =>
        let before := (← Resolution.sight).references
        directory.queryOf rounds number
        let state ← get
        let isCorrelated := !outer.isEmpty && before < (state.sights.headD {}).references
        let heads := state.book.withKinds (state.book.query number) source.source.heads
        return { source with source := { source.source with isCorrelated, heads } }
      | _ => return source
    let start : Sight :=
      { sources, windows := outline.windows, branch? := some outline.number
        mayAggregate := true, mayWindow := true }
    let ((branch, order), _) ← Resolution.within start do
      let results ← outline.results.mapM fun result => do
        let before ← Resolution.sight
        Resolution.changeSight fun sight =>
          { sight with hasAggregate := false, hasWindow := false }
        let term ← directory.termOf rounds result.expression
        Resolution.settle
        let after ← Resolution.sight
        Resolution.changeSight fun sight =>
          { sight with
            hasAggregate := sight.hasAggregate || before.hasAggregate
            hasWindow := sight.hasWindow || before.hasWindow }
        return ({ name? := result.name?, term, width := directory.widthOf result.expression
                  hasAggregate := after.hasAggregate, hasWindow := after.hasWindow }
          : ResultAlias)
      let after ← Resolution.sight
      let isAggregate := !outline.groups.isEmpty || after.hasAggregate
      Resolution.changeSight fun sight =>
        { sight with mayWindow := false, mayAggregate := isAggregate, aliases := results }
      let having? ← match outline.having? with
        | none => pure none
        | some having => do
          unless isAggregate do
            Resolution.complain "HAVING clause on a non-aggregate query"
          let having ← directory.termOf rounds having
          Resolution.settle
          pure (some having)
      Resolution.changeSight fun sight => { sight with isCondition := true }
      let conditions ← outline.conditions.mapM fun condition => do
        let term ← match condition.test with
          | .written expression => directory.termOf rounds expression
          | .linked left right => pure (linkTerm sources left right)
        return ({ term, join? := condition.join? } : Condition)
      Resolution.settle
      Resolution.changeSight fun sight => { sight with isCondition := false }
      let sources ← sources.mapM fun source => do
        let arguments ← source.arguments.mapM fun argument => do
          let term ← directory.termOf rounds argument
          Resolution.settle
          return term
        return { source.source with arguments }
      let alone ← Resolution.sight
      let (order, groups) ←
        Resolution.among [{ alone with mayAggregate := true, mayWindow := true }] do
          let order ← directory.placedOrder rounds "ORDER" results order
          Resolution.changeSight fun sight => { sight with mayWindow := false }
          let groups := outline.groups.map fun group => (group, false, none)
          let groups ← directory.placedOrder rounds "GROUP" results groups
          pure (order, groups)
      let isOwn (part : Term) : Bool :=
        match part with
        | .aggregate owner? .. => owner? = some outline.number
        | _ => false
      if groups.any fun group => group.term.any isOwn then
        Resolution.complain "aggregate functions are not allowed in the GROUP BY clause"
      let isComplex (part : Term) : Bool :=
        match part with
        | .call .. => true
        | .aggregate .. => true
        | .window .. => true
        | part => !part.queries.isEmpty
      let branch : Branch :=
        { number := outline.number, isDistinct := outline.isDistinct
          results := (results.zip outline.results).map fun (result, outline) =>
            { term := result.term, name := outline.title result.term
              isNamed := result.name?.isSome }
          sources, conditions, groups, having?, isAggregate
          hasExtreme := after.hasExtreme, needsOrder := after.needsOrder
          isComplex := results.any (·.term.any isComplex)
          isRecursive := outline.isRecursive, isValues := outline.isValues }
      return (branch, order)
    return (branch, order)

/-- Looks up the names in a selection. -/
def queryOf (directory : Directory) : (rounds : Nat) → (number : Nat) → Resolution Unit
  | 0, _ => Resolution.complain "parser stack overflow"
  | rounds + 1, number => do
    let outline := directory.outlines.getD number default
    let isCompound := 1 < outline.branches.length
    let limits ← Resolution.among [{}] do
      let limit? ← outline.limit?.mapM (directory.termOf rounds)
      Resolution.settle
      let offset? ← outline.offset?.mapM (directory.termOf rounds)
      Resolution.settle
      pure (limit?, offset?)
    let mut found : List (Compound × Branch) := []
    let mut order : List TermOrder := []
    for (op, branch) in outline.branches.reverse do
      let own := if isCompound then [] else outline.order
      let (branch, placed) ← directory.branchOf rounds own branch
      order := placed
      if let some (next, last) := found.head? then
        if last.results.length ≠ branch.results.length then
          if last.isValues && branch.isValues then
            Resolution.complain "all VALUES must have the same number of terms"
          else
            Resolution.complain ("SELECTs to the left and right of " ++ next.title
              ++ " do not have the same number of result columns")
      found := (op, { branch with isPart := isCompound }) :: found
    if isCompound then
      order ← directory.compoundOrder rounds (found.map (·.2)) outline
    let book := (← get).book
    let query : Query :=
      { branches := found, order, limit? := limits.1, offset? := limits.2, heads := [] }
    let heads := book.withKinds query outline.heads
    let query := { query with heads }
    modify fun state => { state with book := state.book.set! number query }
    let selves := found.flatMap fun (_, branch) =>
      (branch.sources.filter fun source =>
        match source.origin with
        | .found => true
        | _ => false).map QuerySource.cursor
    if let some self := selves.head? then
      modify fun state => { state with book := state.book.told self heads }

/-- What the rows of several branches together are ordered by: columns of the result. -/
def compoundOrder (directory : Directory) : (rounds : Nat) → List Branch → Outline →
    Resolution (List TermOrder)
  | 0, _, _ => Resolution.complain "parser stack overflow"
  | rounds + 1, branches, outline => do
    let mut places : List (Option Nat) := outline.order.map fun _ => none
    for (branch, (_, drawn)) in branches.zip outline.branches do
      let results : List ResultAlias :=
        (branch.results.zip drawn.results).map fun (result, drawn) =>
          { name? := drawn.name?, term := result.term, width := 1 }
      for ((expression, _, _), n) in outline.order.zipIdx do
        if (places.getD n none).isNone then
          let bare := expression.withoutCollation
          match smallNumber? bare, placeOfName? results bare with
          | some number, _ =>
            if number < 1 || (results.length : Int) < number then
              outOfRange "ORDER" n results.length
            places := places.set n (some (number.toNat - 1))
          | none, some place => places := places.set n (some place)
          | none, none =>
            let sight : Sight :=
              { sources := drawn.sources.zipWith (fun source own => { source with source := own })
                  branch.sources
                aliases := results, branch? := some branch.number, mayAggregate := true }
            let term? ← Resolution.attempt (Resolution.among [sight] do
              let term ← directory.termOf rounds bare
              Resolution.settle
              pure term)
            let isLike (result : ResultAlias) : Bool :=
              term?.any fun term => Term.likeness result.term term ≠ .different
            places := places.set n (results.findIdx? isLike)
    outline.order.zipIdx.mapM fun ((expression, descending, nullsFirst?), n) => do
      match places.getD n none with
      | some place =>
        return .mk (collatedNumber (place + 1) expression) descending
          (movesNull descending nullsFirst?) (some place)
      | none =>
        Resolution.complain (ordinal (n + 1)
          ++ " ORDER BY term does not match any column in the result set")

end

end Directory
end AppCatalog
