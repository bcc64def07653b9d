import AppCatalog.Schema.Function
import AppCatalog.Schema.Part
import AppCatalog.Schema.Table

/-!
# References in the definition of a table

What the expressions that belong to a table may say: conditions on its rows, values of columns
that are generated, and what indexes order by. They speak about one row of the table alone, so
they know its columns and nothing else.
-/

namespace AppCatalog

/-- What an expression of a table is used for. -/
inductive TableUse where
  | check
  | generated
  | indexed
  | partly
  deriving Repr, DecidableEq

namespace TableUse

/-- What an expression of that use is called. -/
def title : TableUse → String
  | check => "CHECK constraints"
  | generated => "generated columns"
  | indexed => "index expressions"
  | partly => "partial index WHERE clauses"

/-- Whether the number of the row can be asked for. -/
def knowsRowid : TableUse → Bool
  | check => true
  | partly => true
  | _ => false

/-- Whether names of tables before those of columns are refused. -/
def isStrict (use : TableUse) : Bool := !use.knowsRowid

end TableUse

namespace Table

/-- The complaint about a column that is not there. -/
def noColumn (table? : Option String) (name : String) : String :=
  "no such column: " ++ ((table?.map (· ++ ".")).getD "") ++ name

/-- Checks the name of a column in an expression of a table. -/
def checkColumn (table : Table) (use : TableUse) (table? : Option String) (name : String)
    (isQuoted : Bool) : Except String Unit := do
  if table?.isSome && use.isStrict then
    throw ("the \".\" operator prohibited in " ++ use.title)
  let isHere := table?.all (sameName table.name)
  let isKnown := (table.find? name).isSome ||
    (use.knowsRowid && table.hasRowid && isRowidName name)
  let isPlain := table?.isNone && (isQuoted || ["true", "false"].contains name.toLower)
  unless (isHere && isKnown) || isPlain do throw (noColumn table? name)

/-- Checks the call of a function in an expression of a table. A function that is not known is
noticed only when it is called. -/
def checkCall (use : TableUse) (name : String) (count : Nat) : Except String Unit := do
  match FunctionRule.find? name count with
  | some rule =>
    if !rule.isConstant && use ≠ .check then
      throw ("non-deterministic functions prohibited in " ++ use.title)
    if rule.isAggregate then throw ("misuse of aggregate function " ++ name ++ "()")
  | none =>
    unless (FunctionRule.named name).isEmpty do
      throw ("wrong number of arguments to function " ++ name ++ "()")

/-- Checks the call of a function of some rows in an expression of a table. -/
def checkCallOver (use : TableUse) (name : String) (count : Nat)
    (hasOrder hasFilter hasWindow : Bool) : Except String Unit := do
  let rule? := FunctionRule.find? name count
  if hasWindow && rule?.any (!·.isAggregate) then
    throw (name ++ "() may not be used as a window function")
  if hasWindow && rule?.any (·.isAggregate) then
    throw ("misuse of window function " ++ name ++ "()")
  checkCall use name count
  if rule?.any (!·.isAggregate) then
    if hasFilter then throw ("FILTER may not be used with non-aggregate " ++ name ++ "()")
    if hasOrder then throw ("ORDER BY may not be used with non-aggregate " ++ name ++ "()")

/-- Checks that as many values are compared with each other on both sides. -/
def checkWidths (left : Expression) (others : List Expression) : Except String Unit :=
  if others.all fun other => other.width = left.width then .ok () else .error "row value misused"

/-- Checks an expression of a table. -/
def check (table : Table) (use : TableUse) (expression : Expression) : Except String Unit :=
  expression.visit fun part =>
    match part with
    | .column table? name isQuoted => table.checkColumn use table? name isQuoted
    | .foreign _ other name => table.checkColumn use (some other) name false
    | .variable => .error ("parameters prohibited in " ++ use.title)
    | .inSelection .. => .error ("subqueries prohibited in " ++ use.title)
    | .exists _ => .error ("subqueries prohibited in " ++ use.title)
    | .scalar _ => .error ("subqueries prohibited in " ++ use.title)
    | .time _ =>
      if use = .check then .ok ()
      else .error ("non-deterministic functions prohibited in " ++ use.title)
    | .call name _ arguments => checkCall use name arguments.length
    | .callAll name => checkCall use name 0
    | .callOver name _ _ arguments order filter? window? =>
      checkCallOver use name arguments.length (!order.isEmpty) filter?.isSome window?.isSome
    | .like name _ arguments => checkCall use name arguments.length
    | .binary op left right =>
      if op.isComparison then checkWidths left [right] else .ok ()
    | .between _ operand low high => checkWidths operand [low, high]
    | _ => .ok ()

end Table
end AppCatalog
