import AppCatalog.Schema.Expression

/-!
# Parts of expressions

Going through an expression part by part, without entering the selections in it.
-/

namespace AppCatalog
namespace Expression

mutual

/-- Does something for an expression, and then for each of its parts from first to last.
Selections are not entered. -/
def visit {m : Type → Type} [Monad m] (act : Expression → m Unit) : Expression → m Unit
  | .collate operand name => do
    act (.collate operand name)
    visit act operand
  | .cast operand type => do
    act (.cast operand type)
    visit act operand
  | .unary op operand => do
    act (.unary op operand)
    visit act operand
  | .binary op left right => do
    act (.binary op left right)
    visit act left
    visit act right
  | .isNull operand => do
    act (.isNull operand)
    visit act operand
  | .notNull operand => do
    act (.notNull operand)
    visit act operand
  | .like function negated arguments => do
    act (.like function negated arguments)
    visitAll act arguments
  | .between negated operand low high => do
    act (.between negated operand low high)
    visit act operand
    visit act low
    visit act high
  | .inList negated operand list => do
    act (.inList negated operand list)
    visit act operand
    visitAll act list
  | .inSelection negated operand selection => do
    act (.inSelection negated operand selection)
    visit act operand
  | .case operand? branches otherwise? => do
    act (.case operand? branches otherwise?)
    visitOption act operand?
    visitBranches act branches
    visitOption act otherwise?
  | .call function isDistinct arguments => do
    act (.call function isDistinct arguments)
    visitAll act arguments
  | .row items => do
    act (.row items)
    visitAll act items
  | .callOver function isAll isDistinct arguments order filter? window? => do
    act (.callOver function isAll isDistinct arguments order filter? window?)
    visitAll act arguments
    visitTerms act order
    visitOption act filter?
  | expression => act expression

/-- Visits expressions, first to last. -/
def visitAll {m : Type → Type} [Monad m] (act : Expression → m Unit) :
    List Expression → m Unit
  | [] => return
  | expression :: rest => do
    visit act expression
    visitAll act rest

/-- Visits the branches of a case distinction, first to last. -/
def visitBranches {m : Type → Type} [Monad m] (act : Expression → m Unit) :
    List (Expression × Expression) → m Unit
  | [] => return
  | (condition, value) :: rest => do
    visit act condition
    visit act value
    visitBranches act rest

/-- Visits what rows are ordered by. -/
def visitTerms {m : Type → Type} [Monad m] (act : Expression → m Unit) :
    List (Expression × Bool × Option Bool) → m Unit
  | [] => return
  | (expression, _, _) :: rest => do
    visit act expression
    visitTerms act rest

/-- Visits an expression, if there is one. -/
def visitOption {m : Type → Type} [Monad m] (act : Expression → m Unit) :
    Option Expression → m Unit
  | none => return
  | some expression => visit act expression

end

mutual

/-- An expression with other selections in place of those in it, first to last. -/
def replaceSelections {m : Type → Type} [Monad m] (f : Selection → m Selection) :
    Expression → m Expression
  | .collate operand name => return .collate (← replaceSelections f operand) name
  | .cast operand type => return .cast (← replaceSelections f operand) type
  | .unary op operand => return .unary op (← replaceSelections f operand)
  | .binary op left right => do
    let left ← replaceSelections f left
    return .binary op left (← replaceSelections f right)
  | .isNull operand => return .isNull (← replaceSelections f operand)
  | .notNull operand => return .notNull (← replaceSelections f operand)
  | .like function negated arguments => return .like function negated (← replaceAll f arguments)
  | .between negated operand low high => do
    let operand ← replaceSelections f operand
    let low ← replaceSelections f low
    return .between negated operand low (← replaceSelections f high)
  | .inList negated operand list => do
    let operand ← replaceSelections f operand
    return .inList negated operand (← replaceAll f list)
  | .inSelection negated operand selection => do
    let operand ← replaceSelections f operand
    return .inSelection negated operand (← f selection)
  | .exists selection => return .exists (← f selection)
  | .scalar selection => return .scalar (← f selection)
  | .case operand? branches otherwise? => do
    let operand? ← replaceOption f operand?
    let branches ← replaceBranches f branches
    return .case operand? branches (← replaceOption f otherwise?)
  | .call function isDistinct arguments =>
    return .call function isDistinct (← replaceAll f arguments)
  | .callOver function isAll isDistinct arguments order filter? window? => do
    let order ← replaceTerms f order
    let arguments ← replaceAll f arguments
    let window? ← replaceWindow f window?
    return .callOver function isAll isDistinct arguments order (← replaceOption f filter?) window?
  | .row items => return .row (← replaceAll f items)
  | expression => return expression

/-- Replaces selections in expressions. -/
def replaceAll {m : Type → Type} [Monad m] (f : Selection → m Selection) :
    List Expression → m (List Expression)
  | [] => return []
  | expression :: rest => do
    let expression ← replaceSelections f expression
    return expression :: (← replaceAll f rest)

/-- Replaces selections in an expression, if there is one. -/
def replaceOption {m : Type → Type} [Monad m] (f : Selection → m Selection) :
    Option Expression → m (Option Expression)
  | none => return none
  | some expression => return some (← replaceSelections f expression)

/-- Replaces selections in the branches of a case distinction. -/
def replaceBranches {m : Type → Type} [Monad m] (f : Selection → m Selection) :
    List (Expression × Expression) → m (List (Expression × Expression))
  | [] => return []
  | (condition, value) :: rest => do
    let condition ← replaceSelections f condition
    let value ← replaceSelections f value
    return (condition, value) :: (← replaceBranches f rest)

/-- Replaces selections in what rows are ordered by. -/
def replaceTerms {m : Type → Type} [Monad m] (f : Selection → m Selection) :
    List (Expression × Bool × Option Bool) → m (List (Expression × Bool × Option Bool))
  | [] => return []
  | (expression, how) :: rest => do
    let expression ← replaceSelections f expression
    return (expression, how) :: (← replaceTerms f rest)

/-- Replaces selections in what says which rows are around a row, if it is said. -/
def replaceWindow {m : Type → Type} [Monad m] (f : Selection → m Selection) :
    Option Window → m (Option Window)
  | some (.defined base? partition order frame?) => do
    let order ← replaceTerms f order
    let partition ← replaceAll f partition
    return some (.defined base? partition order frame?)
  | window? => return window?

end

/-- Whether an expression has the same value wherever it stands. -/
def isConstant (expression : Expression) : Bool :=
  let act (part : Expression) : Except String Unit :=
    match part with
    | .column none name false =>
      if ["true", "false"].contains name.toLower then .ok () else .error name
    | .column .. => .error "column"
    | .inSelection .. => .error "selection"
    | .exists _ => .error "selection"
    | .scalar _ => .error "selection"
    | .raise .. => .error "raise"
    | _ => .ok ()
  (expression.visit act).isOk

/-- An expression without the orders of texts that are said outermost. -/
def withoutCollation : Expression → Expression
  | .collate operand _ => withoutCollation operand
  | expression => expression

/-- The number of values that an expression stands for, as far as it shows. -/
def width : Expression → Nat
  | .row items => items.length
  | _ => 1

end Expression

/-- Whether an operator compares two values. -/
def Binary.isComparison : Binary → Bool
  | .eq => true
  | .ne => true
  | .lt => true
  | .le => true
  | .gt => true
  | .ge => true
  | .is => true
  | .isNot => true
  | _ => false

end AppCatalog
