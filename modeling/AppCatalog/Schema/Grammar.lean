import AppCatalog.Decimal.Wide
import AppCatalog.Schema.Parse
import AppCatalog.Schema.Part

/-!
# The grammar of expressions and selections

Operators bind by rank: `OR` least, then `AND`, `NOT`, comparisons for equality, other comparisons,
operators on bits, sums, products, concatenation, `COLLATE`, and signs most. Operators of one rank
group from the left.
-/

namespace AppCatalog
namespace Parse

/-! ## Literals -/

/-- The number that hexadecimal digits write. -/
def hexValue (digits : List Char) : Nat :=
  digits.foldl (fun value c =>
    let digit :=
      if c.isDigit then c.toNat - 48 else if 'a' ≤ c then c.toNat - 87 else c.toNat - 55
    value * 16 + digit) 0

/-- The whole number that decimal digits write. -/
def wholeValue (digits : List Char) : Nat :=
  digits.foldl (fun value c => value * 10 + (c.toNat - 48)) 0

/-- The number that a decimal text without sign writes. -/
def decimalValue (text : List Char) : Double :=
  let isPower (c : Char) : Bool := c = 'e' || c = 'E'
  let front := text.takeWhile (!isPower ·)
  let back := (text.dropWhile (!isPower ·)).drop 1
  let whole := front.takeWhile (· ≠ '.')
  let fraction := (front.dropWhile (· ≠ '.')).drop 1
  let power : Int := match back with
    | '-' :: digits => -(wholeValue digits : Int)
    | '+' :: digits => wholeValue digits
    | digits => wholeValue digits
  Wide.read false (wholeValue (whole ++ fraction)) (power - fraction.length)

/-- The greatest whole number. -/
def maxWhole : Nat := 0x7FFFFFFFFFFFFFFF

/-- The value of digits to base sixteen, with the sign in the highest bit. -/
def hexNumberOf (text : String) (digits : List Char) : Expression :=
  let value := hexValue digits
  if value < 0x10000000000000000 then .integer (Block.signed 64 value) else .tooLong text

/-- The value of a number. -/
def numberOf (text : String) : Expression :=
  let cs := text.toList.filter (· ≠ '_')
  match cs with
  | '0' :: 'x' :: digits => hexNumberOf text digits
  | '0' :: 'X' :: digits => hexNumberOf text digits
  | _ =>
    if cs.all Char.isDigit then
      let value := wholeValue cs
      if value ≤ maxWhole then .integer value else .real (decimalValue cs).toBits
    else .real (decimalValue cs).toBits

/-- A number behind a minus sign, if it has too many digits to base sixteen for that. -/
def tooLow? (token : Token) : Option Expression :=
  if token.kind ≠ .integer then none
  else
    match token.text.toList.filter (· ≠ '_') with
    | '0' :: x :: digits =>
      let isGreat := (x = 'x' ∨ x = 'X') ∧ 0x8000000000000000 ≤ hexValue digits
      let isTooLong := isGreat ∧ (hexValue digits = 0x8000000000000000 ∨
        0x10000000000000000 ≤ hexValue digits)
      if isTooLong then some (.tooLong ("-" ++ token.text)) else none
    | _ => none

/-- The plain bytes that a token writes. -/
def bytesOf (text : String) : Block :=
  let digits := (text.toList.drop 2).dropLast
  ((List.range (digits.length / 2)).map fun n =>
    (hexValue ((digits.drop (2 * n)).take 2)).toUInt8).toArray

/-- The value that a token writes by itself, if it writes one. -/
def literal? (token : Token) : Option Expression :=
  match token.kind with
  | .integer => some (numberOf token.text)
  | .float => some (numberOf token.text)
  | .bytes => some (.blob (bytesOf token.text))
  | .string => some (.text token.value)
  | .word "NULL" => some .null
  | .word "CURRENT_DATE" => some (.time "CURRENT_DATE")
  | .word "CURRENT_TIME" => some (.time "CURRENT_TIME")
  | .word "CURRENT_TIMESTAMP" => some (.time "CURRENT_TIMESTAMP")
  | _ => none

/-! ## Operators -/

/-- An operator between two expressions, with its rank. -/
def infixOf? (token : Token) : Option (Nat × Binary) :=
  match token.kind, token.text with
  | .word "OR", _ => some (1, .or)
  | .word "AND", _ => some (2, .and)
  | .symbol, "=" => some (4, .eq)
  | .symbol, "==" => some (4, .eq)
  | .symbol, "<>" => some (4, .ne)
  | .symbol, "!=" => some (4, .ne)
  | .symbol, "<" => some (5, .lt)
  | .symbol, "<=" => some (5, .le)
  | .symbol, ">" => some (5, .gt)
  | .symbol, ">=" => some (5, .ge)
  | .symbol, "&" => some (7, .bitAnd)
  | .symbol, "|" => some (7, .bitOr)
  | .symbol, "<<" => some (7, .shiftLeft)
  | .symbol, ">>" => some (7, .shiftRight)
  | .symbol, "+" => some (8, .add)
  | .symbol, "-" => some (8, .subtract)
  | .symbol, "*" => some (9, .multiply)
  | .symbol, "/" => some (9, .divide)
  | .symbol, "%" => some (9, .remainder)
  | .symbol, "||" => some (10, .concat)
  | _, _ => none

/-- The words that ask whether a text has a form, with the functions that tell. -/
def likeWords : List String := ["LIKE", "GLOB", "REGEXP", "MATCH"]

/-- The rank of the operator that a token starts, if it starts one. -/
def rankOf (token : Token) : Nat :=
  match infixOf? token with
  | some (rank, _) => rank
  | none =>
    match token.kind with
    | .word word =>
      if word = "NOT" then 3
      else if likeWords.contains word then 4
      else if ["IS", "BETWEEN", "IN", "ISNULL", "NOTNULL"].contains word then 4
      else if word = "COLLATE" then 11
      else 0
    | .symbol => if token.text = "->" ∨ token.text = "->>" then 10 else 0
    | _ => 0

/-- A sign before an expression. -/
def signOf? (token : Token) : Option Unary :=
  if token.kind ≠ .symbol then none
  else
    match token.text with
    | "-" => some .minus
    | "+" => some .plus
    | "~" => some .complement
    | _ => none

/-- Whether a token is the least whole number without its sign. -/
def isLeast (token : Token) : Bool :=
  let digits := token.text.toList.filter (· ≠ '_')
  token.kind = .integer && digits.all Char.isDigit && decide (wholeValue digits = maxWhole + 1)

/-- Whether a token starts a selection. -/
def startsSelection (token : Token) : Bool :=
  ["SELECT", "VALUES", "WITH"].any token.isWord

/-! ## What is simplified at once -/

/-- Whether a call of a function stands somewhere in an expression. -/
def hasCall (expression : Expression) : Bool := !(expression.visit act).isOk
where
  /-- Fails for a call. -/
  act : Expression → Except Unit Unit
    | .call .. => .error ()
    | .callAll _ => .error ()
    | .callOver .. => .error ()
    | .like .. => .error ()
    | .time _ => .error ()
    | _ => .ok ()

/-- Whether an expression is plainly false. -/
def isFalse : Expression → Bool
  | .integer 0 => true
  | .truth false => true
  | _ => false

/-- Both conditions together. What is plainly false makes all of it false. -/
def conjunction (left right : Expression) : Expression :=
  if (isFalse left || isFalse right) && !hasCall left && !hasCall right then .integer 0
  else .binary .and left right

/-- Two expressions with an operator between them. What is compared with nothing at all asks whether
there is a value. -/
def combination (op : Binary) (left right : Expression) : Expression :=
  match op, right with
  | .and, right => conjunction left right
  | .is, .null => .isNull left
  | .isNot, .null => .notNull left
  | op, right => .binary op left right

/-- Whether an expression is in a list. With a single value that is always the same, it is that
value or not; and nothing is in an empty list. Lists of rows are selections. -/
def membership (negated : Bool) (left : Expression) (items : List Expression) : Expression :=
  match left, items with
  | _, [] => .truth negated
  | .row _, items =>
    let values (item : Expression) : List Expression :=
      match item with
      | .row values => values
      | item => [item]
    .inSelection negated left (.values (items.map values))
  | left, [item] =>
    if item.isConstant && !hasCall item then
      let same : Expression := .binary .eq left (.unary .plus item)
      if negated then .unary .not same else same
    else .inList negated left [item]
  | left, items => .inList negated left items

/-- The greatest number of a parameter. -/
def maxParameter : Nat := 32766

/-- What is wrong with the name of a parameter, if something is. -/
def parameterFlaw? (token : Token) : Option String :=
  match token.text.toList with
  | '#' :: c :: _ => if c.isDigit then some (complaint token) else none
  | '?' :: digits =>
    let number := wholeValue digits
    if !digits.isEmpty && (number = 0 || maxParameter < number) then
      some ("variable number must be between ?1 and ?" ++ toString maxParameter)
    else none
  | _ => none

/-- The greatest number of arguments of a function. -/
def maxArguments : Nat := 127

/-! ## Joins -/

/-- A word that joins: whether it asks for all rows of one side or the other, and for pairs only. -/
def joinWord? (word : String) : Option (JoinKind × Bool × Bool) :=
  match word.toUpper with
  | "NATURAL" => some ({ isNatural := true }, false, false)
  | "LEFT" => some ({ keepsLeft := true }, true, false)
  | "RIGHT" => some ({ keepsRight := true }, true, false)
  | "FULL" => some ({ keepsLeft := true, keepsRight := true }, true, false)
  | "OUTER" => some ({}, true, false)
  | "INNER" => some ({}, false, true)
  | "CROSS" => some ({ isOrdered := true }, false, true)
  | _ => none

/-- The kind of a join from its words; a complaint if they make no sense together. -/
def joinOf (words : List String) : Except String JoinKind :=
  let found := words.map joinWord?
  let kinds := found.filterMap id
  let all := kinds.foldl (fun (all : JoinKind) (kind, _) =>
    { isNatural := all.isNatural || kind.isNatural
      keepsLeft := all.keepsLeft || kind.keepsLeft
      keepsRight := all.keepsRight || kind.keepsRight
      isOrdered := all.isOrdered || kind.isOrdered }) {}
  let isOuter := kinds.any (·.2.1)
  let isInner := kinds.any (·.2.2)
  if found.any Option.isNone || (isOuter && isInner) ||
      (isOuter && !all.keepsLeft && !all.keepsRight) then
    .error ("unknown join type: " ++ String.intercalate " " words)
  else .ok all

/-- Takes the words between two sources, if there are any. -/
def join? : Parse (Option JoinKind) := do
  if ← acceptSymbol "," then return some {}
  if ← acceptWord "JOIN" then return some {}
  let token ← peek
  let isJoining := match token.kind with
    | .word word => Token.joining.contains word && word ≠ "INDEXED"
    | _ => false
  if !isJoining then return none
  let mut words : List String := [(← next).text]
  for _ in [0, 1] do
    unless (← peek).isWord "JOIN" do
      let token ← peek
      if token.isName then words := words ++ [(← next).text] else fail
  word "JOIN"
  match joinOf words with
  | .ok kind => return some kind
  | .error complaint => throw complaint

/-- Whether tokens start the names of windows. -/
def startsWindows : Parse Bool := do
  let token ← peek
  let isName (token : Token) : Bool := token.isName
  return token.text.toLower = "window" && token.isPlainName && isName (← peekAfter 1) &&
    (← peekAfter 2).isWord "AS"

/-- Takes the name that something is given, if it is given one. -/
def givenName? : Parse (Option String) := do
  if ← acceptWord "AS" then return some (← name)
  else if ← startsWindows then return none
  else label?

/-! ## Expressions and selections -/

/-- The name of an operator between selections. -/
def titleOf : Compound → String
  | .union => "UNION"
  | .unionAll => "UNION ALL"
  | .except => "EXCEPT"
  | .intersect => "INTERSECT"

/-- The first selection that has the name of another one before it. -/
def repeated? (names : List (String × List String × Option Bool × Selection)) :
    Option (String × List String × Option Bool × Selection) :=
  (names.zipIdx.find? fun (one, n) =>
    (names.take n).any fun other => other.1.toLower = one.1.toLower).map (·.1)

/-- Whether rows around a row can start and stop at two edges. -/
def isSound (start stop : FrameEdge) : Bool :=
  match start, stop with
  | .unboundedPreceding, _ => true
  | .preceding _, _ => true
  | .currentRow, .preceding _ => false
  | .currentRow, _ => true
  | .following _, .following _ => true
  | .following _, .unboundedFollowing => true
  | _, _ => false

/-- A window that starts from another one. -/
def extended (base : String) (window other : Window) : Except String Window :=
  match window, other with
  | .defined _ partition order frame?, .defined _ otherPartition otherOrder otherFrame? =>
    let refuse (what : String) : Except String Window :=
      .error ("cannot override " ++ what ++ " of window: " ++ base)
    if !partition.isEmpty then refuse "PARTITION clause"
    else if !order.isEmpty && !otherOrder.isEmpty then refuse "ORDER BY clause"
    else if otherFrame?.isSome then refuse "frame specification"
    else .ok (.defined none otherPartition (otherOrder ++ order) frame?)
  | window, _ => .ok window

/-- A window with what it takes from the one that it starts from, which is among others. -/
def linkedTo (windows : List (String × Window)) (window : Window) : Except String Window :=
  match window with
  | .defined (some base) _ _ _ =>
    match windows.find? (·.1.toLower = base.toLower) with
    | some (_, other) => extended base window other
    | none => .error ("no such window: " ++ base)
  | window => .ok window

/-- Windows that may start from those before them, the last one first. -/
def linked : List (String × Window) → Except String (List (String × Window))
  | [] => .ok []
  | first :: rest => rest.foldlM (fun windows (title, window) => do
      return (title, ← linkedTo windows window) :: windows) [first]

/-- Takes the names of columns in parentheses. -/
def columnNames : Parse (List String) := parenthesized do
  let column ← name
  if ← acceptWord "COLLATE" then discard label
  discard direction
  return column

mutual

/-- Reads an expression whose operators have at least some rank. -/
def expressionFrom : (depth rank : Nat) → Parse Expression
  | 0, _ => fail
  | depth + 1, rank => do
    let token ← peek
    let first ←
      if let some op := signOf? token then
        discard next
        let number ← peek
        if op = .minus && isLeast number then
          discard next
          pure (.integer (-(maxWhole : Int) - 1))
        else if let some complaint := (tooLow? number).filter fun _ => op = .minus then
          discard next
          pure complaint
        else pure (.unary op (← expressionFrom depth 12))
      else if ← acceptWord "NOT" then pure (.unary .not (← expressionFrom depth 4))
      else primary depth
    operators depth (← get).length rank first

/-- Reads operators of at least some rank, and what they are applied to, behind an expression. -/
def operators : (depth rounds rank : Nat) → Expression → Parse Expression
  | 0, _, _, _ => fail
  | _, 0, _, left => return left
  | depth + 1, rounds + 1, rank, left => do
    let token ← peek
    let here := rankOf token
    if here = 0 ∨ here < rank then return left
    else operators depth rounds rank (← operator depth left)

/-- Reads one operator and what it is applied to, behind an expression. -/
def operator : (depth : Nat) → Expression → Parse Expression
  | 0, _ => fail
  | depth + 1, left => do
    let token ← next
    if let some (rank, op) := infixOf? token then
      return combination op left (← expressionFrom depth (rank + 1))
    match token.kind with
    | .symbol => return .call token.text false [left, ← expressionFrom depth 11]
    | .word "COLLATE" => return .collate left (← label)
    | .word "ISNULL" => return .isNull left
    | .word "NOTNULL" => return .notNull left
    | .word "IS" =>
      let negated ← acceptWord "NOT"
      if ← acceptWord "DISTINCT" then
        word "FROM"
        return combination (if negated then .is else .isNot) left (← expressionFrom depth 5)
      else return combination (if negated then .isNot else .is) left (← expressionFrom depth 5)
    | .word "NOT" =>
      if ← acceptWord "NULL" then return .notNull left
      else
        let token ← peek
        discard (anyWord ("BETWEEN" :: "IN" :: likeWords))
        condition depth true left token
    | .word _ => condition depth false left token
    | _ => fail

/-- Reads a condition that starts with a word, perhaps behind `NOT`. -/
def condition : (depth : Nat) → (negated : Bool) → Expression → Token → Parse Expression
  | 0, _, _, _ => fail
  | depth + 1, negated, left, start => do
    if start.isWord "BETWEEN" then
      let low ← expressionFrom depth 3
      word "AND"
      return .between negated left low (← expressionFrom depth 5)
    else if start.isWord "IN" then
      if ← acceptSymbol "(" then
        if startsSelection (← peek) then
          let selection ← selectionFrom depth
          symbol ")"
          return .inSelection negated left selection
        else if ← acceptSymbol ")" then return membership negated left []
        else
          let items ← list (expressionFrom depth 1)
          symbol ")"
          for item in items do
            let count := item.width
            if 1 < left.width ∧ count ≠ left.width then
              throw ("IN(...) element has " ++ toString count ++ " term"
                ++ (if count = 1 then "" else "s") ++ " - expected " ++ toString (left.width))
          return membership negated left items
      else
        let (schema?, table) ← qualifiedName
        let origin ←
          if (← peek).isSymbol "(" then
            pure (Origin.function schema? table (← arguments depth))
          else pure (Origin.table schema? table none)
        return .inSelection negated left
          (.plain false [.all] [.mk origin none {} none none] none [] none [])
    else
      let form ← expressionFrom depth 5
      let escape ← if ← acceptWord "ESCAPE" then pure [← expressionFrom depth 5] else pure []
      return .like start.text negated ([form, left] ++ escape)

/-- Reads an expression without operators. -/
def primary : (depth : Nat) → Parse Expression
  | 0 => fail
  | depth + 1 => do
    let token ← peek
    if let some value := literal? token then
      unless token.kind = .string ∧ (← peekAfter 1).isSymbol "." do
        discard next
        return value
    match token.kind with
    | .variable =>
      discard next
      match parameterFlaw? token with
      | some flaw => object flaw
      | none => return .variable
    | .symbol =>
      symbol "("
      if startsSelection (← peek) then
        let selection ← selectionFrom depth
        symbol ")"
        return .scalar selection
      else
        match ← list (expressionFrom depth 1) with
        | [item] =>
          symbol ")"
          return item
        | items =>
          symbol ")"
          return .row items
    | .word "CAST" =>
      discard next
      symbol "("
      let operand ← expressionFrom depth 1
      word "AS"
      let type ← typeName
      symbol ")"
      return .cast operand type
    | .word "EXISTS" =>
      discard next
      symbol "("
      let selection ← selectionFrom depth
      symbol ")"
      return .exists selection
    | .word "CASE" =>
      discard next
      let operand? ←
        if (← peek).isWord "WHEN" then pure none else pure (some (← expressionFrom depth 1))
      let branches ← branchesFrom depth (← get).length
      let otherwise? ←
        if ← acceptWord "ELSE" then pure (some (← expressionFrom depth 1)) else pure none
      word "END"
      return .case operand? branches otherwise?
    | .word "RAISE" =>
      discard next
      symbol "("
      if ← acceptWord "IGNORE" then
        symbol ")"
        return .raise .ignore ""
      else
        let action := onConflictOf (← anyWord ["ROLLBACK", "ABORT", "FAIL"])
        symbol ","
        let message ← name
        symbol ")"
        return .raise action message
    | _ => named depth

/-- Reads the name of a column, or a function with its arguments. -/
def named : (depth : Nat) → Parse Expression
  | 0 => fail
  | depth + 1 => do
    let token ← peek
    let first ← name
    if ← acceptSymbol "(" then called depth first
    else if ← acceptSymbol "." then
      let second ← name
      if ← acceptSymbol "." then
        let third ← name
        if first.toLower = "main" then return .column (some second) third false
        else return .foreign first second third
      else return .column (some first) second false
    else return .column none first token.isDoubleQuoted

/-- Reads the arguments of a function, and of which rows it is one. -/
def called : (depth : Nat) → (function : String) → Parse Expression
  | 0, _ => fail
  | depth + 1, function => do
    let isAll ← acceptSymbol "*"
    let isDistinct ←
      if isAll then pure false else pure ((← acceptAny ["DISTINCT", "ALL"]) = some "DISTINCT")
    let token ← peek
    let isEmpty := isAll || token.isSymbol ")" || token.isWord "ORDER"
    let arguments ← if isEmpty then pure [] else list (expressionFrom depth 1)
    let order ←
      if isAll then pure []
      else if ← acceptWord "ORDER" then
        word "BY"
        list (orderTerm depth)
      else pure []
    let order := if isEmpty then [] else order
    symbol ")"
    if maxArguments < arguments.length then throw ("too many arguments on function " ++ function)
    let filter? ←
      if (← peek).text.toLower = "filter" && (← peek).isPlainName && (← peekAfter 1).isSymbol "("
      then
        discard next
        symbol "("
        word "WHERE"
        let condition ← expressionFrom depth 1
        symbol ")"
        pure (some condition)
      else pure none
    let isOver := (← peek).text.toLower = "over" && (← peek).isPlainName &&
      ((← peekAfter 1).isSymbol "(" || (← peekAfter 1).isName)
    let window? ←
      if isOver then
        discard next
        if ← acceptSymbol "(" then
          let window ← windowFrom depth
          symbol ")"
          pure (some window)
        else pure (some (.named (← name)))
      else pure none
    if isDistinct && window?.isSome then
      object "DISTINCT is not supported for window functions"
    if !order.isEmpty && window?.isSome then
      object ("ORDER BY may not be used with non-aggregate " ++ function ++ "()")
    if order.isEmpty && filter?.isNone && window?.isNone then
      if isAll then return .callAll function else return .call function isDistinct arguments
    else return .callOver function isAll isDistinct arguments order filter? window?

/-- Reads a window between its parentheses. -/
def windowFrom : (depth : Nat) → Parse Window
  | 0 => fail
  | depth + 1 => do
    let token ← peek
    let startsPart := ["PARTITION", "ORDER", "ROWS", "RANGE", "GROUPS"].any token.isWord
    let base? ← if token.isName && !startsPart then pure (some (← name)) else pure none
    let partition ←
      if ← acceptWord "PARTITION" then
        word "BY"
        list (expressionFrom depth 1)
      else pure []
    let order ←
      if ← acceptWord "ORDER" then
        word "BY"
        list (orderTerm depth)
      else pure []
    match ← acceptAny ["ROWS", "RANGE", "GROUPS"] with
    | none => return .defined base? partition order none
    | some unit =>
      let unit : FrameUnit :=
        if unit = "ROWS" then .rows else if unit = "RANGE" then .range else .groups
      let isBetween ← acceptWord "BETWEEN"
      let start ← frameEdge depth true
      let stop ←
        if isBetween then
          word "AND"
          frameEdge depth false
        else pure .currentRow
      let exclusion ←
        if ← acceptWord "EXCLUDE" then
          match ← anyWord ["NO", "CURRENT", "GROUP", "TIES"] with
          | "NO" =>
            word "OTHERS"
            pure FrameExclusion.nothing
          | "CURRENT" =>
            word "ROW"
            pure FrameExclusion.currentRow
          | "GROUP" => pure FrameExclusion.group
          | _ => pure FrameExclusion.ties
        else pure FrameExclusion.nothing
      unless isSound start stop do throw "unsupported frame specification"
      return .defined base? partition order (some (.mk unit start stop exclusion))

/-- Reads an end of the rows around a row. -/
def frameEdge : (depth : Nat) → (isStart : Bool) → Parse FrameEdge
  | 0, _ => fail
  | depth + 1, isStart => do
    if ← acceptWord "UNBOUNDED" then
      if isStart then
        word "PRECEDING"
        return .unboundedPreceding
      else
        word "FOLLOWING"
        return .unboundedFollowing
    else if (← peek).isWord "CURRENT" && (← peekAfter 1).isWord "ROW" then
      discard next
      discard next
      return .currentRow
    else
      let distance ← expressionFrom depth 1
      if (← anyWord ["PRECEDING", "FOLLOWING"]) = "PRECEDING" then return .preceding distance
      else return .following distance

/-- Reads the branches of a case distinction. -/
def branchesFrom : (depth rounds : Nat) → Parse (List (Expression × Expression))
  | 0, _ => fail
  | _, 0 => fail
  | depth + 1, rounds + 1 => do
    word "WHEN"
    let condition ← expressionFrom depth 1
    word "THEN"
    let value ← expressionFrom depth 1
    if (← peek).isWord "WHEN" then
      return (condition, value) :: (← branchesFrom depth rounds)
    else return [(condition, value)]

/-- Reads a selection. -/
def selectionFrom : (depth : Nat) → Parse Selection
  | 0 => fail
  | depth + 1 => do
    if ← acceptWord "WITH" then
      discard (acceptWord "RECURSIVE")
      let names ← list (namedSelection depth)
      if let some (title, _) := repeated? names then
        throw ("duplicate WITH table name: " ++ title)
      return .withNames names (← bodyFrom depth)
    else bodyFrom depth

/-- Reads a selection and the name that it is given. -/
def namedSelection : (depth : Nat) → Parse (String × List String × Option Bool × Selection)
  | 0 => fail
  | depth + 1 => do
    let title ← name
    let columns ← if (← peek).isSymbol "(" then columnNames else pure []
    word "AS"
    let isApart? ←
      if ← acceptWord "NOT" then
        word "MATERIALIZED"
        pure (some false)
      else if ← acceptWord "MATERIALIZED" then pure (some true)
      else pure none
    symbol "("
    let selection ← selectionFrom depth
    symbol ")"
    return (title, columns, isApart?, selection)

/-- Reads a selection with its order and its limits. -/
def bodyFrom : (depth : Nat) → Parse Selection
  | 0 => fail
  | depth + 1 => do compoundFrom depth (← get).length (← core depth)

/-- Reads the order and the limits of a selection. -/
def limited : (depth : Nat) → Selection → Parse Selection
  | 0, _ => fail
  | depth + 1, selection => do
    let order ←
      if ← acceptWord "ORDER" then
        word "BY"
        list (orderTerm depth)
      else pure []
    if ← acceptWord "LIMIT" then
      let first ← expressionFrom depth 1
      if ← acceptWord "OFFSET" then
        return .ordered selection order (some first) (some (← expressionFrom depth 1))
      else if ← acceptSymbol "," then
        return .ordered selection order (some (← expressionFrom depth 1)) (some first)
      else return .ordered selection order (some first) none
    else if order.isEmpty then return selection
    else return .ordered selection order none none

/-- Reads what rows are ordered by: an expression, the direction, and whether rows without a value
come first, if that is said. -/
def orderTerm : (depth : Nat) → Parse (Expression × Bool × Option Bool)
  | 0 => fail
  | depth + 1 => do
    let value ← expressionFrom depth 1
    let descending ← direction
    if ← acceptWord "NULLS" then
      return (value, descending, some ((← anyWord ["FIRST", "LAST"]) = "FIRST"))
    else return (value, descending, none)

/-- Reads selections that are put together with one before. Only the last one can have an order and
limits, which are those of all of them. -/
def compoundFrom : (depth rounds : Nat) → Selection → Parse Selection
  | 0, _, _ => fail
  | _, 0, left => return left
  | depth + 1, rounds + 1, left => do
    match ← acceptAny ["UNION", "EXCEPT", "INTERSECT"] with
    | none => return left
    | some start =>
      let op : Compound ←
        if start = "EXCEPT" then pure Compound.except
        else if start = "INTERSECT" then pure Compound.intersect
        else if ← acceptWord "ALL" then pure Compound.unionAll
        else pure Compound.union
      let right ← core depth
      if let .ordered _ order _ _ := left then
        throw ((if order.isEmpty then "LIMIT" else "ORDER BY")
          ++ " clause should come after " ++ titleOf op ++ " not before")
      match right with
      | .ordered right order limit? offset? =>
        compoundFrom depth rounds (.ordered (.compound op left right) order limit? offset?)
      | right => compoundFrom depth rounds (.compound op left right)

/-- Reads rows that are listed, or a selection from sources. -/
def core : (depth : Nat) → Parse Selection
  | 0 => fail
  | depth + 1 => do
    if ← acceptWord "VALUES" then
      return .values (← list (parenthesized (expressionFrom depth 1)))
    word "SELECT"
    let isDistinct := (← acceptAny ["DISTINCT", "ALL"]) = some "DISTINCT"
    let columns ← list (resultColumn depth)
    let sources ← if ← acceptWord "FROM" then sourcesFrom depth else pure []
    let condition? ←
      if ← acceptWord "WHERE" then pure (some (← expressionFrom depth 1)) else pure none
    let groups ←
      if ← acceptWord "GROUP" then
        word "BY"
        list (expressionFrom depth 1)
      else pure []
    let having? ←
      if ← acceptWord "HAVING" then pure (some (← expressionFrom depth 1)) else pure none
    let windows ←
      if ← startsWindows then
        discard next
        match linked (← list (windowDefinition depth)) with
        | .ok windows => pure windows
        | .error objection => object objection
      else pure []
    limited depth (.plain isDistinct columns sources condition? groups having? windows)

/-- Reads a window and its name. -/
def windowDefinition : (depth : Nat) → Parse (String × Window)
  | 0 => fail
  | depth + 1 => do
    let title ← name
    word "AS"
    symbol "("
    let window ← windowFrom depth
    symbol ")"
    return (title, window)

/-- Reads a column of a result. -/
def resultColumn : (depth : Nat) → Parse ResultColumn
  | 0 => fail
  | depth + 1 => do
    if ← acceptSymbol "*" then return .all
    else if (← peek).isName && (← peekAfter 1).isSymbol "." && (← peekAfter 2).isSymbol "*" then
      let table ← name
      symbol "."
      symbol "*"
      return .allOf table
    else
      let (value, text) ← withText (expressionFrom depth 1)
      return .value value (← givenName?) text

/-- Reads the sources of a selection. Sources in parentheses that come first and have no name are
the first of them. -/
def sourcesFrom : (depth : Nat) → Parse (List Source)
  | 0 => fail
  | depth + 1 => do
    if (← peek).isSymbol "(" && !startsSelection (← peekAfter 1) then
      discard next
      let inside ← sourcesFrom depth
      symbol ")"
      let first ← enclosed depth inside {}
      match first with
      | .mk (.sources _) none _ none none => return inside ++ (← moreSources depth (← get).length)
      | .mk _ none _ none none => return inside ++ (← moreSources depth (← get).length)
      | first => startingWith depth first
    else startingWith depth (← source depth {})

/-- Reads the sources behind the first one. -/
def startingWith : (depth : Nat) → Source → Parse (List Source)
  | 0, _ => fail
  | depth + 1, first => do
    match first with
    | .mk _ _ _ (some _) _ => throw "a JOIN clause is required before ON"
    | .mk _ _ _ _ (some _) => throw "a JOIN clause is required before USING"
    | first => return first :: (← moreSources depth (← get).length)

/-- Reads what is said about sources in parentheses behind them. A single one is meant itself, but
the name that it has inside is not known outside. -/
def enclosed : (depth : Nat) → List Source → JoinKind → Parse Source
  | 0, _, _ => fail
  | depth + 1, inside, join => do
    let alias? ← givenName?
    let origin : Origin :=
      if inside.length = 1 then (inside.head?.map Source.origin).getD (.sources inside)
      else .sources inside
    joined depth origin alias? join

/-- Reads sources that are joined with some before. -/
def moreSources : (depth rounds : Nat) → Parse (List Source)
  | 0, _ => fail
  | _, 0 => return []
  | depth + 1, rounds + 1 => do
    match ← join? with
    | none => return []
    | some join =>
      let here ← source depth join
      return here :: (← moreSources depth rounds)

/-- Reads one source of a selection, or several in parentheses. -/
def source : (depth : Nat) → JoinKind → Parse Source
  | 0, _ => fail
  | depth + 1, join => do
    if ← acceptSymbol "(" then
      if startsSelection (← peek) then
        let selection ← selectionFrom depth
        symbol ")"
        let alias? ← givenName?
        joined depth (.selection selection) alias? join
      else
        let inside ← sourcesFrom depth
        symbol ")"
        enclosed depth inside join
    else
      let (schema?, table) ← qualifiedName
      if (← peek).isSymbol "(" then
        let arguments ← arguments depth
        let alias? ← givenName?
        joined depth (.function schema? table arguments) alias? join
      else
        let alias? ← givenName?
        let hint? ←
          if ← acceptWord "INDEXED" then
            word "BY"
            pure (some (IndexHint.named (← name)))
          else if ← acceptWord "NOT" then
            word "INDEXED"
            pure (some IndexHint.none)
          else pure none
        joined depth (.table schema? table hint?) alias? join

/-- Reads the arguments of a source. -/
def arguments : (depth : Nat) → Parse (List Expression)
  | 0 => fail
  | depth + 1 => do
    symbol "("
    if ← acceptSymbol ")" then return []
    else
      let items ← list (expressionFrom depth 1)
      symbol ")"
      return items

/-- Reads what the rows of a source must satisfy to go with those before. -/
def joined : (depth : Nat) → Origin → (alias? : Option String) → JoinKind → Parse Source
  | 0, _, _, _ => fail
  | depth + 1, origin, alias?, join => do
    if ← acceptWord "ON" then
      return .mk origin alias? join (some (← expressionFrom depth 1)) none
    else if ← acceptWord "USING" then
      return .mk origin alias? join none (some (← parenthesized name))
    else return .mk origin alias? join none none

end

/-- The depth to which expressions may be nested. -/
def maxDepth : Nat := 4000

/-- Reads an expression. -/
def expression : Parse Expression := expressionFrom maxDepth 1

/-- Reads a selection of rows. -/
def selection : Parse Selection := selectionFrom maxDepth

end Parse
end AppCatalog
