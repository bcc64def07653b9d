import AppCatalog.Query.Book
import AppCatalog.Query.Calling
import AppCatalog.Query.Operator

/-!
# Evaluating terms

The values of a term: one, or those of a row of values. What columns hold is said by somebody else,
and so are the answers of queries. What need not be known is not evaluated: a function that takes
the first of its arguments that has a value looks no further, and neither does a condition whose
truth is clear.
-/

namespace AppCatalog

/-- What terms are evaluated with. -/
structure Setting where
  encoding : Encoding
  /-- The value that the statement was given. -/
  parameter : Value := .null
  /-- What the expressions of a table are part of, if they are evaluated. -/
  belonging? : Option Belonging := none
  book : Book := #[]
  /-- What a column holds. -/
  field : Field → Run Marked := fun _ => return { value := .null }
  /-- Whether there is no row of a source. -/
  isVacant : Nat → Bool := fun _ => false
  /-- The rows of a query, or the first of them. -/
  answer : (query : Nat) → (most? : Option Nat) → Run (List (List Marked)) :=
    fun _ _ => Run.fail .malformed

namespace Term

/-- One of the terms of a row. -/
def part (term : Term) (n : Nat) : Term :=
  match term with
  | .row items => items.getD n default
  | .scalar query => if n = 0 then .scalar query else .item query 0 n
  | .collate operand _ _ => part operand n
  | term => term

end Term

namespace Marked

/-- Nothing at all. -/
def none : Marked := { value := .null }

/-- A truth. -/
def ofTruth (truth? : Option Bool) : Marked := { value := .ofTruth truth? }

/-- The first of some values. -/
def first (values : List Marked) : Marked := values.headD none

end Marked

namespace Setting

/-! ## Comparing -/

/-- How two values of terms compare; this cannot be told if one of them is nothing. -/
def order? (setting : Setting) (left right : Term) (a b : Value) : Option Ordering :=
  if a.isNull || b.isNull then none
  else
    let inner := setting.book.inner
    let affinity := Affinity.ofComparison (left.affinity? inner) (right.affinity? inner)
    let collation := (Term.commonCollation? left right).getD .binary
    some (Affinity.compareValues affinity setting.encoding collation a b)

/-- Whether two values of terms are the same; nothing is the same as nothing. -/
def isSame (setting : Setting) (left right : Term) (a b : Value) : Bool :=
  if a.isNull || b.isNull then a.isNull && b.isNull
  else setting.order? left right a b = some .eq

/-- What an operator says about two values of terms. -/
def related (setting : Setting) (op : Binary) (left right : Term) (a b : Value) : Option Bool :=
  match op with
  | .is => some (setting.isSame left right a b)
  | .isNot => some (!setting.isSame left right a b)
  | op => (setting.order? left right a b).bind op.holds?

/-- What an operator says about two rows of values from one place on. Rows are the same if all of
their values are; which of them comes first is told by the first values that differ. -/
def relatedFrom (setting : Setting) (op : Binary) (left right : Term) :
    (n : Nat) → List Marked → List Marked → Option Bool
  | n, [a], [b] => setting.related op (left.part n) (right.part n) a.value b.value
  | n, a :: as, b :: bs =>
    let here (op : Binary) : Option Bool :=
      setting.related op (left.part n) (right.part n) a.value b.value
    let rest := relatedFrom setting op left right (n + 1) as bs
    match op with
    | .eq => Value.both (here op) rest
    | .is => Value.both (here op) rest
    | .ne => Value.either (here op) rest
    | .isNot => Value.either (here op) rest
    | op =>
      match here .eq with
      | some true => rest
      | some false => here op
      | none => none
  | _, _, _ => none

/-- What an operator that compares says about the values of two terms. -/
def compared (setting : Setting) (op : Binary) (left right : Term) (as bs : List Marked) :
    Option Bool :=
  match as, bs with
  | [a], [b] => setting.related op left right a.value b.value
  | as, bs => setting.relatedFrom op left right 0 as bs

/-- Whether a value of a term is the same as one that is listed. -/
def isItem (setting : Setting) (left : Term) (a b : Value) : Option Bool :=
  if a.isNull || b.isNull then none
  else
    let affinity := (left.affinity? setting.book.inner).getD .blob
    let collation := left.collation?.getD .binary
    some (Affinity.compareValues affinity setting.encoding collation a b = .eq)

/-- Whether a row of values is one that a query has. -/
def isAnswer (setting : Setting) (left : Term) (query : Nat) (as bs : List Marked) :
    Option Bool :=
  let results := (setting.book.query query).last.results
  let parts := (as.zip bs).zipIdx.map fun ((a, b), n) =>
    setting.related .eq (left.part n) ((results.getD n default).term) a.value b.value
  parts.foldl Value.both (some true)

/-! ## Calling functions -/

/-- What a function makes of its arguments. -/
def called (setting : Setting) (name : String) (arguments : List Term) (values : List Marked) :
    Run Marked := do
  let collation := (arguments.findSome? Term.collation?).getD .binary
  let tally := (← getThe Progress).tally
  Run.ofExcept
    (Marked.call setting.encoding setting.belonging? tally collation name.toLower values)

/-! ## Values -/

mutual

/-- The values of a term. -/
def values (setting : Setting) : Term → Run (List Marked)
  | .constant value => return [{ value }]
  | .truth value => return [Marked.ofTruth (some value)]
  | .tooLong _ => return [Marked.none]
  | .parameter => return [{ value := setting.parameter }]
  | .field field => return [← setting.field field]
  | .collate operand _ _ => values setting operand
  | .cast operand type => do
    let value := (Marked.first (← values setting operand)).value
    return [{ value := value.cast setting.encoding type }]
  | .unary .plus operand => values setting operand
  | .unary op operand => do
    let value := (Marked.first (← values setting operand)).value
    return [{ value := op.apply setting.encoding value }]
  | .binary op left right => do
    let as ← values setting left
    let bs ← values setting right
    if op.isComparison then return [Marked.ofTruth (setting.compared op left right as bs)]
    else
      let a := (Marked.first as).value
      return [{ value := op.apply setting.encoding a (Marked.first bs).value }]
  | .isTruth operand truth negated => do
    let value := (Marked.first (← values setting operand)).value
    let isSo := value.truth? setting.encoding == some truth
    return [Marked.ofTruth (some (isSo != negated))]
  | .isNull operand => do
    let value := (Marked.first (← values setting operand)).value
    return [Marked.ofTruth (some value.isNull)]
  | .notNull operand => do
    let value := (Marked.first (← values setting operand)).value
    return [Marked.ofTruth (some !value.isNull)]
  | .between operand low high => do
    let as ← values setting operand
    let isAbove := setting.compared .ge operand low as (← values setting low)
    let isBelow := setting.compared .le operand high as (← values setting high)
    return [Marked.ofTruth (Value.both isAbove isBelow)]
  | .inList operand items => do
    let value := (Marked.first (← values setting operand)).value
    return [Marked.ofTruth (← isListed setting operand value (some false) items)]
  | .inQuery operand query => do
    let as ← values setting operand
    let rows ← setting.answer query none
    let found := rows.foldl (fun found bs =>
      Value.either found (setting.isAnswer operand query as bs)) (some false)
    return [Marked.ofTruth found]
  | .exists query => do
    let rows ← setting.answer query (some 1)
    return [Marked.ofTruth (some !rows.isEmpty)]
  | .scalar query => do
    match ← setting.answer query (some 1) with
    | row :: _ => return row
    | [] => return List.replicate (setting.book.width query) Marked.none
  | .item query _ place => do
    let rows ← setting.answer query (some 1)
    return [(rows.headD []).getD place Marked.none]
  | .row items => valuesOfAll setting items
  | .case operand? branches otherwise? => do
    let found? ← match operand? with
      | none => branch setting none branches
      | some operand => do
        let as ← values setting operand
        branch setting (some (operand, as)) branches
    match found? with
    | some found => return found
    | none => valuesOfOption setting otherwise?
  | .call function arguments =>
    match function.toLower with
    | "coalesce" => return [← firstOf setting arguments]
    | "ifnull" => return [← firstOf setting arguments]
    | "iif" => return [← chosen setting arguments]
    | _ => do
      let found ← valuesOfAll setting arguments
      return [← setting.called function arguments found]
  | .aggregate .. => return [Marked.none]
  | .window .. => return [Marked.none]
  | .raise action message =>
    match action with
    | .ignore => throw .skipped
    | action => Run.violate action .trigger message
  | .unlessVacant cursor operand => do
    if setting.isVacant cursor then return [Marked.none] else values setting operand
  | .fixed field operand => do
    let value := (Marked.first (← values setting operand)).value
    match field.affinity? with
    | none => return [{ value }]
    | some affinity => return [{ value := affinity.apply setting.encoding value }]

/-- The values of terms, first to last. -/
def valuesOfAll (setting : Setting) : List Term → Run (List Marked)
  | [] => return []
  | term :: rest => do
    let found ← values setting term
    return found ++ (← valuesOfAll setting rest)

/-- The values of a term; nothing if there is none. -/
def valuesOfOption (setting : Setting) : Option Term → Run (List Marked)
  | none => return [Marked.none]
  | some term => values setting term

/-- The first value of some terms that is not nothing; those behind it are not evaluated. -/
def firstOf (setting : Setting) : List Term → Run Marked
  | [] => return Marked.none
  | term :: rest => do
    let found := Marked.first (← values setting term)
    if found.value.isNull then firstOf setting rest else return found

/-- The second of three terms if the first one is true, and else the third. -/
def chosen (setting : Setting) : List Term → Run Marked
  | condition :: yes :: no :: _ => do
    let value := (Marked.first (← values setting condition)).value
    if value.truth? setting.encoding == some true then
      return Marked.first (← values setting yes)
    else return Marked.first (← values setting no)
  | _ => return Marked.none

/-- Whether a value is one of some terms, if that can be told. Those behind it are not evaluated. -/
def isListed (setting : Setting) (left : Term) (value : Value) (found : Option Bool) :
    List Term → Run (Option Bool)
  | [] => return found
  | term :: rest => do
    let item := (Marked.first (← values setting term)).value
    match Value.either found (setting.isItem left value item) with
    | some true => return some true
    | found => isListed setting left value found rest

/-- The values of the first branch of a case distinction that applies. -/
def branch (setting : Setting) (operand? : Option (Term × List Marked)) :
    List (Term × Term) → Run (Option (List Marked))
  | [] => return none
  | (condition, value) :: rest => do
    let here ← values setting condition
    let applies := match operand? with
      | none => (Marked.first here).value.truth? setting.encoding
      | some (operand, as) => setting.compared .eq operand condition as here
    if applies == some true then return some (← values setting value)
    else branch setting operand? rest

end

/-- The value of a term. -/
def evaluate (setting : Setting) (term : Term) : Run Marked :=
  return Marked.first (← setting.values term)

/-! ## Conditions -/

/-- Whether a condition holds; what counts where that cannot be told is said. -/
def holds (setting : Setting) : (unknown : Bool) → Term → Run Bool
  | unknown, .binary .and left right => do
    if ← holds setting unknown left then holds setting unknown right else return false
  | unknown, .binary .or left right => do
    if ← holds setting unknown left then return true else holds setting unknown right
  | unknown, .unary .not operand => return !(← holds setting (!unknown) operand)
  | _, .isTruth operand truth negated => do
    if truth != negated then holds setting negated operand
    else return !(← holds setting (!negated) operand)
  | unknown, .between operand low high => do
    let as ← setting.values operand
    let isAbove := setting.compared .ge operand low as (← setting.values low)
    if !isAbove.getD unknown then return false
    let isBelow := setting.compared .le operand high as (← setting.values high)
    return isBelow.getD unknown
  | unknown, term => do
    let value := (← setting.evaluate term).value
    return (value.truth? setting.encoding).getD unknown

/-- Whether a condition holds for sure. -/
def isMet (setting : Setting) (condition : Term) : Run Bool := setting.holds false condition

end Setting
end AppCatalog
