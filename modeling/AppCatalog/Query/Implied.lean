import AppCatalog.Query.Merging

/-!
# What conditions imply

A condition that cannot hold where there is no row of a source makes it plain that there must be
one; then rows need not be kept for which there is none. And a column that must be the same as a
constant is known wherever else it stands in the conditions.
-/

namespace AppCatalog

namespace Term

/-- The conditions that a condition asks for together. -/
def conjuncts : Term → List Term
  | .binary .and left right => conjuncts left ++ conjuncts right
  | term => [term]

/-! ## Rows that must be there -/

/-- Whether a column is one of those that are made up. -/
def isSupplied (supplied : List Nat) : Term → Bool
  | .field column => supplied.contains column.cursor
  | .fixed column _ => supplied.contains column.cursor
  | _ => false

/-- Whether a term has a value, or is true, only where there is a row of a source. Some sources make
up their rows, and columns of them are not compared in the usual way. -/
def asksFor (supplied : List Nat) (cursor : Nat) : Term → Bool
  | .field column => column.cursor = cursor
  | .fixed column _ => column.cursor = cursor
  | .collate operand _ _ => asksFor supplied cursor operand
  | .cast operand _ => asksFor supplied cursor operand
  | .unary _ operand => asksFor supplied cursor operand
  | .unlessVacant _ operand => asksFor supplied cursor operand
  | .binary op left right =>
    match op with
    | .and => asksFor supplied cursor left && asksFor supplied cursor right
    | .or => asksFor supplied cursor left && asksFor supplied cursor right
    | .is => false
    | .isNot => false
    | op =>
      if op.isComparison && (isSupplied supplied left || isSupplied supplied right) then false
      else asksFor supplied cursor left || asksFor supplied cursor right
  | .between operand low high =>
    asksFor supplied cursor operand
      || asksFor supplied cursor low && asksFor supplied cursor high
  | .inList operand items => !items.isEmpty && asksFor supplied cursor operand
  | _ => false

/-- Whether a condition holds only where there is a row of a source. -/
def impliesRow (supplied : List Nat) (cursor : Nat) (term : Term) : Bool :=
  term.conjuncts.any fun part =>
    match part.bare with
    | .notNull operand => asksFor supplied cursor operand
    | part => asksFor supplied cursor part

/-- A term in which the columns of a source always have a row. -/
def withRow (cursor : Nat) (term : Term) : Term :=
  term.replace fun part => match part with
    | .field column =>
      if column.cursor = cursor then some (.field { column with isOuter := false }) else none
    | _ => none

end Term

namespace Branch

/-- The sources that make up their rows. -/
def supplied (branch : Branch) : List Nat :=
  (branch.sources.filter QuerySource.isSupplied).map (·.cursor)

/-- Whether the conditions hold only where there is a row of a source. -/
def impliesRow (branch : Branch) (cursor : Nat) (isBeforeRight : Bool) : Bool :=
  branch.conditions.any fun condition =>
    match condition.join? with
    | some (_, true) => false
    | some (_, false) => !isBeforeRight && condition.term.impliesRow branch.supplied cursor
    | none => condition.term.impliesRow branch.supplied cursor

/-- A branch in which a source does not lack rows any more. -/
def tightened (branch : Branch) (cursor : Nat) (mayLack : Bool) : Branch :=
  { branch with conditions := branch.conditions.map fun condition =>
      { term := if mayLack then condition.term else condition.term.withRow cursor
        join? := condition.join?.map fun (own, isOuter) => (own, isOuter && own ≠ cursor) } }

/-- The sources behind one, of which those do not keep their own rows any more that did, and those
that kept other rows keep these. -/
def withoutRight (branch : Branch) (n : Nat) : Branch :=
  let changed := branch.sources.zipIdx.map fun (source, m) =>
    if m ≤ n || !source.joining.keepsRight then source
    else
      let joining := { source.joining with
        keepsRight := false, isOuter := source.joining.keepsLeft }
      { source with joining }
  let loosened := (branch.sources.zipIdx.filter fun (source, m) =>
    n < m && source.joining.keepsRight && !source.joining.keepsLeft).map (·.1.cursor)
  let lastRight? := (changed.zipIdx.reverse.find? (·.1.joining.keepsRight)).map (·.2)
  let changed := changed.zipIdx.map fun (source, m) =>
    if lastRight?.any (m < ·) then source
    else { source with joining := { source.joining with isBeforeRight := false } }
  loosened.foldl (fun branch cursor => branch.tightened cursor true)
    { branch with sources := changed }

/-- A branch that keeps no rows because of a source of which the conditions ask for a row. -/
def strengthened (branch : Branch) (n : Nat) : Branch :=
  let source := branch.sources.getD n default
  let joining := source.joining
  let isLoose := joining.keepsLeft || joining.isBeforeRight
  if !(isLoose && branch.impliesRow source.cursor joining.isBeforeRight) then branch
  else
    let branch :=
      if !joining.keepsLeft then branch
      else
        let next := { joining with keepsLeft := false, isOuter := joining.keepsRight }
        let sources := branch.sources.set n { source with joining := next }
        if joining.keepsRight then { branch with sources }
        else { branch with sources }.tightened source.cursor false
    if joining.isBeforeRight then branch.withoutRight n else branch

end Branch

/-! ## Columns that are known -/

/-- A column that must be the same as a constant, and the place of the condition that says so. -/
structure KnownColumn where
  field : Field
  value : Term
  place : Nat

namespace KnownColumn

/-- What a condition says about a column. -/
def ofEquality? (book : Book) (place : Nat) (left right : Term) : Option KnownColumn :=
  let isPlain := (Term.commonCollation? left right).all (· = .binary)
  match left with
  | .field field =>
    if field.isScanned && right.isConstant && isPlain
        && (right.affinity? book.inner).isNone then
      some { field, value := right, place }
    else none
  | _ => none

/-- What a condition says about columns; the right side comes first. -/
def ofTerm (book : Book) (place : Nat) : Term → List KnownColumn
  | .binary .eq left right =>
    (ofEquality? book place right left).toList ++ (ofEquality? book place left right).toList
  | _ => []

/-- Whether it is about a column. -/
def isAbout (known : KnownColumn) (field : Field) : Bool :=
  known.field.cursor = field.cursor && known.field.column? = field.column?

/-- Whether values are left as they are in the column. -/
def isLoose (known : KnownColumn) : Bool := known.field.affinity?.all (· = .blob)

/-- What is put in place of a term that is a known column. -/
def inPlaceOf? (all : List KnownColumn) (ignoresLoose : Bool) : Term → Option Term
  | .field field =>
    match all.find? (·.isAbout field) with
    | some known =>
      if ignoresLoose && known.isLoose then none else some (.fixed field known.value)
    | none => none
  | _ => none

/-- A condition in which known columns have their values. -/
def settle (book : Book) (all : List KnownColumn) (term : Term) : Term :=
  let hasLoose := all.any isLoose
  let side (term : Term) : Term := (inPlaceOf? all false term).getD term
  term.transform (inPlaceOf? all hasLoose) fun part =>
    match part with
    | .binary op left right =>
      if !hasLoose || !op.isComparison || op = .isNot then part
      else
        let left' := side left
        let right' := if left'.affinity? book.inner ≠ some .text then side right else right
        .binary op left' right'
    | part => part

end KnownColumn

namespace Branch

/-- The conditions of a branch one by one. -/
def splitConditions (branch : Branch) : List Condition :=
  branch.conditions.flatMap fun condition =>
    condition.term.conjuncts.map fun term => { condition with term }

/-- Gives known columns their values in the conditions, in so many rounds. -/
def settledIn (book : Book) (isRight : Bool) : (rounds : Nat) → List Condition → List Condition
  | 0, conditions => conditions
  | rounds + 1, conditions =>
    let isMeant (condition : Condition) : Bool :=
      match condition.join? with
      | some (_, isOuter) => !(isOuter || isRight)
      | none => true
    let found := conditions.zipIdx.reverse.flatMap fun (condition, place) =>
      if isMeant condition then KnownColumn.ofTerm book place condition.term else []
    let all := found.foldl (fun (all : List KnownColumn) known =>
      if all.any (·.isAbout known.field) then all else all ++ [known]) []
    let next := conditions.zipIdx.map fun (condition, place) =>
      if !isMeant condition || all.any (·.place = place) then condition
      else { condition with term := KnownColumn.settle book all condition.term }
    let isSame := (conditions.zip next).all fun (before, after) =>
      before.term.fields.length = after.term.fields.length
    if isSame then conditions else settledIn book isRight rounds next

/-- A branch in whose conditions known columns have their values. -/
def settled (branch : Branch) (book : Book) : Branch :=
  let conditions := branch.splitConditions
  if conditions.length < 2 then branch
  else
    let isRight := branch.sources.head?.any (·.joining.isBeforeRight)
    { branch with conditions := settledIn book isRight (conditions.length + 1) conditions }

end Branch
end AppCatalog
