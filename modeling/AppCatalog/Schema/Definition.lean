import AppCatalog.Schema.Grammar

/-!
# Definitions

The definitions of tables, indexes, views and triggers, as they are written. What a definition
means, and whether it makes sense, is not decided here.
-/

namespace AppCatalog

/-- What becomes of rows that refer to a row that goes away. -/
inductive FollowUp where
  | setNull
  | setDefault
  | cascade
  | restrict
  deriving Repr, DecidableEq

/-- What becomes of rows that refer to a row that is deleted, or whose key changes, if anything
does. -/
structure FollowUps where
  onDelete? : Option FollowUp := none
  onUpdate? : Option FollowUp := none

/-- What a definition says about a column of a table. -/
inductive ColumnRule where
  | primaryKey (descending : Bool) (onConflict? : Option OnConflict) (isCounted : Bool)
  | notNull (onConflict? : Option OnConflict)
  | unique (onConflict? : Option OnConflict)
  /-- A condition and its name, or its text if it has no name. -/
  | check (condition : Expression) (name : String)
  | default (value : Expression)
  | collate (name : String)
  /-- A value that is computed from other columns, when it is read or when it is `stored`. -/
  | generated (value : Expression) (stored : Bool)
  | references (table : String) (columns : List String) (followUps : FollowUps)
  /-- Whether the reference before it is checked late. -/
  | deferral (isLate : Bool)

/-- What a definition says about a table besides its columns. -/
inductive TableRule where
  | primaryKey (terms : List IndexTerm) (onConflict? : Option OnConflict) (isCounted : Bool)
  | unique (terms : List IndexTerm) (onConflict? : Option OnConflict)
  | check (condition : Expression) (name : String)
  | foreignKey (columns : List String) (table : String) (parents : List String)
      (followUps : FollowUps) (isDeferred : Bool)

/-- What can be said about all of a table. -/
inductive TableOption where
  | withoutRowid
  | strict
  deriving Repr, DecidableEq

/-- A column of a table as it is defined. -/
structure ColumnDefinition where
  name : String
  type : String
  rules : List ColumnRule

/-- The name of what is defined. -/
structure Title where
  name : String
  /-- The name as it is written, perhaps in quotes. -/
  text : String
  /-- Whether the name of a database stands before it. -/
  isQualified : Bool

/-- A definition. -/
inductive Definition where
  | table (name : String) (columns : List ColumnDefinition) (rules : List TableRule)
      (options : List TableOption)
  | index (title : Title) (table : String) (isUnique : Bool) (terms : List IndexTerm)
      (condition? : Option Expression)
  /-- A view. Whether parameters stand in it is said as well. -/
  | view (title : Title) (columns? : Option (List String)) (selection : Selection)
      (hasParameter : Bool)
  | trigger (title : Title) (table : String) (time : TriggerTime) (event : TriggerEvent)
      (condition? : Option Expression) (steps : List TriggerStep)
  /-- A table whose rows are not kept here; the module that knows them, and what it is told. -/
  | module (title : Title) (module : String) (arguments : List String)

/-- What is known of some definitions before all of them is read. -/
inductive DefinitionHead where
  | table (title : Title)
  | trigger (title : Title) (schema? : Option String) (table : String) (time : TriggerTime)

namespace Parse

/-- Takes the name of what is defined, perhaps with the name of its database before it. -/
def title : Parse Title := do
  let text := (← peek).text
  let first ← name
  if ← acceptSymbol "." then
    let text := (← peek).text
    return ⟨← name, text, true⟩
  else return ⟨first, text, false⟩

/-! ## Tables -/

/-- Takes what becomes of rows that refer to a row that goes away, if anything does. -/
def followUp? : Parse (Option FollowUp) := do
  match ← anyWord ["SET", "CASCADE", "RESTRICT", "NO"] with
  | "SET" => return some (if (← anyWord ["NULL", "DEFAULT"]) = "NULL" then .setNull else .setDefault)
  | "CASCADE" => return some .cascade
  | "RESTRICT" => return some .restrict
  | _ =>
    word "ACTION"
    return none

/-- Takes what is said about a reference behind the columns that it leads to. What is said last
counts. -/
def referenceRules (followUps : FollowUps) : (rounds : Nat) → Parse FollowUps
  | 0 => return followUps
  | rounds + 1 => do
    if ← acceptWord "ON" then
      let event ← anyWord ["INSERT", "DELETE", "UPDATE"]
      let what? ← followUp?
      let followUps := match event with
        | "DELETE" => { followUps with onDelete? := what? }
        | "UPDATE" => { followUps with onUpdate? := what? }
        | _ => followUps
      referenceRules followUps rounds
    else if ← acceptWord "MATCH" then
      discard name
      referenceRules followUps rounds
    else return followUps

/-- Takes when a reference is checked, behind the word that starts it. -/
def deferral : Parse Bool := do
  if ← acceptWord "INITIALLY" then
    return (← anyWord ["DEFERRED", "IMMEDIATE"]) = "DEFERRED"
  else return false

/-- Takes the names of columns in parentheses, if there are any. -/
def columnNames? : Parse (List String) := do
  if (← peek).isSymbol "(" then columnNames else return []

/-- Takes the table that a column or several refer to, its columns, and what is said about the
reference. -/
def reference : Parse (String × List String × FollowUps) := do
  let table ← name
  let columns ← columnNames?
  return (table, columns, ← referenceRules {} (← get).length)

/-- Takes a condition in parentheses and its name: the one that was given, or its text. -/
def check (given? : Option String) : Parse (Expression × String) := do
  symbol "("
  let (condition, text) ← withText expression
  symbol ")"
  return (condition, given?.getD (Token.unquote text))

/-- The words with which something is said about a column. -/
def columnWords : List String :=
  ["CONSTRAINT", "DEFAULT", "NULL", "NOT", "PRIMARY", "UNIQUE", "CHECK", "REFERENCES",
    "DEFERRABLE", "COLLATE", "GENERATED", "AS"]

/-- Takes how the column of that name is generated. A kind that is not known is noticed only if
the definition can go on behind it. -/
def generation (title : String) : Parse ColumnRule := do
  symbol "("
  let value ← expression
  symbol ")"
  if (← peek).isPlainName then
    let kind := (← next).value.toLower
    if kind = "stored" then return .generated value true
    else if kind = "virtual" then return .generated value false
    else
      let token ← peek
      if columnWords.any token.isWord || token.isSymbol "," || token.isSymbol ")" then
        throw ("error in generated column \"" ++ title ++ "\"")
      else fail
  else return .generated value false

/-- Takes the value of a column for which none is given. -/
def defaultValue : Parse Expression := do
  if ← acceptSymbol "(" then
    let value ← expression
    symbol ")"
    return value
  let sign? := signOf? (← peek)
  match sign? with
  | some .complement => fail
  | some sign =>
    discard next
    return .unary sign (← term)
  | none =>
    let token ← peek
    if token.isPlainName ∧ (literal? token).isNone then
      let text := (← next).value
      if text.toLower = "true" then return .integer 1
      else if text.toLower = "false" then return .integer 0
      else return .text text
    else term
where
  /-- Takes a value that is written by itself. -/
  term : Parse Expression := do
    match literal? (← peek) with
    | some value =>
      discard next
      return value
    | none => fail

/-- Takes what is said about the column of that name. -/
def columnRules (title : String) :
    (rounds : Nat) → (given? : Option String) → Parse (List ColumnRule)
  | 0, _ => return []
  | rounds + 1, given? => do
    match ← acceptAny columnWords with
    | none => return []
    | some "CONSTRAINT" => columnRules title rounds (some (← name))
    | some "DEFAULT" =>
      let rule := ColumnRule.default (← defaultValue)
      return rule :: (← columnRules title rounds given?)
    | some "NULL" =>
      discard onConflict?
      columnRules title rounds given?
    | some "NOT" =>
      if ← acceptWord "DEFERRABLE" then
        discard deferral
        return .deferral false :: (← columnRules title rounds given?)
      else
        word "NULL"
        let rule := ColumnRule.notNull (← onConflict?)
        return rule :: (← columnRules title rounds given?)
    | some "PRIMARY" =>
      word "KEY"
      let descending ← direction
      let onConflict? ← onConflict?
      let rule := ColumnRule.primaryKey descending onConflict? (← acceptWord "AUTOINCREMENT")
      return rule :: (← columnRules title rounds given?)
    | some "UNIQUE" =>
      let rule := ColumnRule.unique (← onConflict?)
      return rule :: (← columnRules title rounds given?)
    | some "CHECK" =>
      let (condition, text) ← check given?
      return .check condition text :: (← columnRules title rounds given?)
    | some "REFERENCES" =>
      let (table, columns, followUps) ← reference
      return .references table columns followUps :: (← columnRules title rounds given?)
    | some "DEFERRABLE" =>
      let rule := ColumnRule.deferral (← deferral)
      return rule :: (← columnRules title rounds given?)
    | some "COLLATE" =>
      let rule := ColumnRule.collate (← label)
      return rule :: (← columnRules title rounds given?)
    | some "GENERATED" =>
      word "ALWAYS"
      word "AS"
      let rule ← generation title
      return rule :: (← columnRules title rounds given?)
    | some _ =>
      let rule ← generation title
      return rule :: (← columnRules title rounds given?)

/-- A type without the words that say that its column is generated. -/
def plainType (type : String) : String :=
  let trimmed (cs : List Char) : List Char := (cs.reverse.dropWhile Token.isBlank).reverse
  let without (end_ : String) (cs : List Char) : Option (List Char) :=
    let keep := cs.length - end_.length
    if (String.ofList (cs.drop keep)).toLower = end_ then some (trimmed (cs.take keep)) else none
  let cs := type.toList
  if cs.length < 16 then type
  else
    match without "always" cs with
    | none => type
    | some cs => String.ofList ((without "generated" cs).getD cs)

/-- Takes the definition of a column. -/
def column : Parse ColumnDefinition := do
  let title ← name
  let type ← typeName
  return { name := title, type := plainType type, rules := ← columnRules title (← get).length none }

/-- Takes a column of an index. -/
def indexTerm : Parse IndexTerm := do
  let found ← expression
  let descending ← direction
  if ← acceptWord "NULLS" then
    let first ← anyWord ["FIRST", "LAST"]
    throw ("unsupported use of NULLS " ++ first)
  match found with
  | .collate expression collation => return { expression, collation? := some collation, descending }
  | expression => return { expression, descending }

/-- Takes what is said about a table besides its columns. -/
def tableRules : (rounds : Nat) → (given? : Option String) → (needed : Bool) →
    Parse (List TableRule)
  | 0, _, _ => return []
  | rounds + 1, given?, needed => do
    match ← acceptAny ["CONSTRAINT", "PRIMARY", "UNIQUE", "CHECK", "FOREIGN"] with
    | none => if needed then fail else return []
    | some "CONSTRAINT" =>
      let given ← name
      let isNew ← acceptSymbol ","
      tableRules rounds (if isNew then none else some given) isNew
    | some "PRIMARY" =>
      word "KEY"
      symbol "("
      let terms ← list indexTerm
      let isCounted ← acceptWord "AUTOINCREMENT"
      symbol ")"
      let rule := TableRule.primaryKey terms (← onConflict?) isCounted
      return rule :: (← more rounds given?)
    | some "UNIQUE" =>
      let terms ← parenthesized indexTerm
      let rule := TableRule.unique terms (← onConflict?)
      return rule :: (← more rounds given?)
    | some "CHECK" =>
      let (condition, text) ← check given?
      discard onConflict?
      return .check condition text :: (← more rounds given?)
    | some _ =>
      word "KEY"
      let columns ← columnNames?
      if columns.isEmpty then fail
      word "REFERENCES"
      let (table, parents, followUps) ← reference
      let isDeferred ←
        if ← acceptWord "DEFERRABLE" then deferral
        else if ← acceptWord "NOT" then
          word "DEFERRABLE"
          discard deferral
          pure false
        else pure false
      return .foreignKey columns table parents followUps isDeferred :: (← more rounds given?)
where
  /-- Takes what else is said, perhaps behind a comma. -/
  more (rounds : Nat) (given? : Option String) : Parse (List TableRule) := do
    if ← acceptSymbol "," then tableRules rounds none true else tableRules rounds given? false

/-- Takes the columns of a table, and what is said about the table behind them. -/
def tableItems : (rounds : Nat) → Parse (List ColumnDefinition × List TableRule)
  | 0 => fail
  | rounds + 1 => do
    let first ← column
    if ← acceptSymbol "," then
      if (← peek).isName then
        let (columns, rules) ← tableItems rounds
        return (first :: columns, rules)
      else return ([first], ← tableRules (← get).length none true)
    else return ([first], [])

/-- Takes the options of a table. One that is not known is noticed only if the definition can go
on behind it. -/
def tableOptions : (rounds : Nat) → Parse (List TableOption)
  | 0 => return []
  | rounds + 1 => do
    let isWithout ← acceptWord "WITHOUT"
    let text := (← peek).text
    let title ← name
    let token ← peek
    let option ←
      if isWithout ∧ title.toLower = "rowid" then pure TableOption.withoutRowid
      else if !isWithout ∧ title.toLower = "strict" then pure TableOption.strict
      else if token.isSymbol "," || token.isSymbol ";" || token.kind = .stop then
        throw ("unknown table option: " ++ text)
      else fail
    if ← acceptSymbol "," then return option :: (← tableOptions rounds) else return [option]

/-- Takes the rest of a definition of a table, behind its name. -/
def tableBody (title : String) : Parse Definition := do
  symbol "("
  let (columns, rules) ← tableItems (← get).length
  symbol ")"
  let options ← if (← peek).isName then tableOptions (← get).length else pure []
  return .table title columns rules options

/-! ## Triggers -/

/-- Takes an assignment of values to columns. -/
def assignment : Parse Assignment := do
  if (← peek).isSymbol "(" then
    let columns ← parenthesized name
    symbol "="
    let value ← expression
    let isFit := match value with
      | .scalar _ => true
      | value => value.width = columns.length
    unless isFit do
      object (toString columns.length ++ " columns assigned " ++ toString (value.width)
        ++ " values")
    return { columns, value }
  else
    let column ← name
    symbol "="
    return { columns := [column], value := ← expression }

/-- Takes a condition, if there is one. -/
def condition? : Parse (Option Expression) := do
  if ← acceptWord "WHERE" then return some (← expression) else return none

/-- Takes the name of the table that a step of a trigger changes. -/
def stepTable : Parse String := do
  let table ← name
  if ← acceptSymbol "." then
    discard name
    object ("qualified table names are not allowed on INSERT, UPDATE, and DELETE statements within "
      ++ "triggers")
  else return table

/-- Objects to words that say with which index rows are found. -/
def noIndexHint : Parse Unit := do
  let objection (kind : String) : String :=
    "the " ++ kind ++ " clause is not allowed on UPDATE or DELETE statements within triggers"
  if ← acceptWord "INDEXED" then
    word "BY"
    discard name
    object (objection "INDEXED BY")
  else if ← acceptWord "NOT" then
    word "INDEXED"
    object (objection "NOT INDEXED")

/-- Objects to words that ask for the rows that are changed. -/
def noReturning : Parse Unit := do
  if ← acceptWord "RETURNING" then
    discard (list (resultColumn maxDepth))
    object "cannot use RETURNING in a trigger"

/-- Takes what is done in place of inserting rows that are there already. -/
def upserts : (rounds : Nat) → Parse (List Upsert)
  | 0 => return []
  | rounds + 1 => do
    noReturning
    if ← acceptWord "ON" then
      word "CONFLICT"
      let isAimed := (← peek).isSymbol "("
      let target ← if isAimed then parenthesized indexTerm else pure []
      let targetCondition? ← if isAimed then condition? else pure none
      word "DO"
      let upsert : Upsert ←
        if ← acceptWord "NOTHING" then
          pure { target, targetCondition?, assignments? := none, condition? := none }
        else
          word "UPDATE"
          word "SET"
          let assignments ← list assignment
          let condition? ← condition?
          pure { target, targetCondition?, assignments? := some assignments, condition? }
      if isAimed then return upsert :: (← upserts rounds)
      else
        noReturning
        return [upsert]
    else return []

/-- Takes a step of a trigger that adds rows, behind the word that starts it. -/
def insertion (onConflict? : Option OnConflict) : Parse TriggerStep := do
  word "INTO"
  let table ← stepTable
  let columns ← if (← peek).isSymbol "(" then parenthesized name else pure []
  let rows ← selection
  return .insert onConflict? table columns rows (← upserts (← get).length)

/-- Takes a step of a trigger. -/
def triggerStep : Parse TriggerStep := do
  if ← acceptWord "UPDATE" then
    let onConflict? ← if ← acceptWord "OR" then pure (some (← resolution)) else pure none
    let table ← stepTable
    noIndexHint
    word "SET"
    let assignments ← list assignment
    let sources ← if ← acceptWord "FROM" then sourcesFrom maxDepth else pure []
    return .update onConflict? table assignments sources (← condition?)
  else if ← acceptWord "DELETE" then
    word "FROM"
    let table ← stepTable
    noIndexHint
    return .delete table (← condition?)
  else if ← acceptWord "INSERT" then
    insertion (← if ← acceptWord "OR" then pure (some (← resolution)) else pure none)
  else if ← acceptWord "REPLACE" then insertion (some .replace)
  else if startsSelection (← peek) then return .select (← selection)
  else fail

/-- Takes the steps of a trigger up to the word that ends them. -/
def triggerSteps : (rounds : Nat) → Parse (List TriggerStep)
  | 0 => fail
  | rounds + 1 => do
    let step ← triggerStep
    symbol ";"
    if ← acceptWord "END" then return [step] else return step :: (← triggerSteps rounds)

/-- Takes the rest of a definition of a trigger, behind its name. -/
def triggerBody (accepts : DefinitionHead → Except String Unit) (title : Title) :
    Parse Definition := do
  let time ← match ← acceptAny ["BEFORE", "AFTER", "INSTEAD"] with
    | some "AFTER" => pure TriggerTime.after
    | some "INSTEAD" =>
      word "OF"
      pure TriggerTime.instead
    | _ => pure TriggerTime.before
  let event ← match ← anyWord ["INSERT", "DELETE", "UPDATE"] with
    | "INSERT" => pure TriggerEvent.insert
    | "DELETE" => pure TriggerEvent.delete
    | _ => if ← acceptWord "OF" then pure (.update (← list name)) else pure (.update [])
  word "ON"
  let (schema?, table) ← qualifiedName
  if ← acceptWord "FOR" then
    word "EACH"
    word "ROW"
  let condition? ← if ← acceptWord "WHEN" then pure (some (← expression)) else pure none
  word "BEGIN"
  accepts (.trigger title schema? table time)
  return .trigger title table time event condition? (← triggerSteps (← get).length)

/-! ## All definitions -/

/-- Takes the words that ask for a definition only where there is none yet. -/
def ifNotExists : Parse Unit := do
  if ← acceptWord "IF" then
    word "NOT"
    word "EXISTS"

/-- Takes the rest of a definition of an index, behind the word that says so. -/
def indexBody (isUnique : Bool) : Parse Definition := do
  ifNotExists
  let title ← title
  word "ON"
  let table ← name
  let terms ← parenthesized indexTerm
  return .index title table isUnique terms (← condition?)

/-- Takes a definition of a table, behind the word that says so. Its columns are written in
parentheses; they cannot be what a selection gives, but that is noticed only at the end of it. -/
def tableDefinition (accepts : DefinitionHead → Except String Unit) : Parse Definition := do
  ifNotExists
  let title ← title
  let token ← peek
  unless token.isSymbol "(" || token.isWord "AS" do fail
  accepts (.table title)
  if ← acceptWord "AS" then
    discard selection
    let token ← peek
    if token.isSymbol ";" || token.kind = .stop then throw "" else fail
  else tableBody title.name

/-- Takes what a module is told between parentheses, as it is written. The parentheses in it match
each other. -/
def moduleArguments : (rounds depth : Nat) → (taken : List Token) → Parse (List String)
  | 0, _, _ => fail
  | rounds + 1, depth, taken => do
    let token ← peek
    let done := Token.written taken.reverse
    if token.kind = .stop || token.kind = .illegal then fail
    discard next
    if token.isSymbol "," && depth = 0 then return done :: (← moduleArguments rounds 0 [])
    else if token.isSymbol "(" then moduleArguments rounds (depth + 1) (token :: taken)
    else if token.isSymbol ")" then
      if depth = 0 then return [done] else moduleArguments rounds (depth - 1) (token :: taken)
    else moduleArguments rounds depth (token :: taken)

/-- Takes the rest of a definition of a table of a module, behind the word that says so. -/
def moduleBody (title : Title) : Parse Definition := do
  let module ← name
  if ← acceptSymbol "(" then
    return .module title module (← moduleArguments (← get).length 0 [])
  else return .module title module []

/-- Takes a definition. Somebody may object to the name of a table, or to a trigger, before the
rest of the definition is read. -/
def definition (accepts : DefinitionHead → Except String Unit) : Parse Definition := do
  word "CREATE"
  if ← acceptWord "UNIQUE" then
    word "INDEX"
    indexBody true
  else if ← acceptWord "INDEX" then indexBody false
  else
    let isTemporary := (← acceptAny ["TEMP", "TEMPORARY"]).isSome
    let kinds := if isTemporary then ["TABLE", "VIEW", "TRIGGER"]
      else ["TABLE", "VIEW", "TRIGGER", "VIRTUAL"]
    match ← anyWord kinds with
    | "VIEW" =>
      ifNotExists
      let title ← title
      let columns? ←
        if (← peek).isSymbol "(" then pure (some (← columnNames?)) else pure none
      word "AS"
      let before ← get
      let rows ← selection
      let taken := before.take (before.length - (← get).length)
      return .view title columns? rows (taken.any (·.kind = .variable))
    | "TRIGGER" =>
      ifNotExists
      triggerBody accepts (← title)
    | "VIRTUAL" =>
      word "TABLE"
      ifNotExists
      let title ← title
      word "USING"
      accepts (.table title)
      moduleBody title
    | _ => tableDefinition accepts

end Parse

/-- Reads a definition. -/
def Definition.ofText (text : String) (accepts : DefinitionHead → Except String Unit) :
    Except String Definition :=
  Parse.runAll (Parse.definition accepts) (Token.ofText text)

end AppCatalog
