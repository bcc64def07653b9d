import AppCatalog.Pages.Block

/-!
# Expressions and selections

What a definition says beyond names: expressions over the columns of rows, selections of rows, and
the steps of a trigger. Names stay names here; what they mean depends on where they are looked up.
-/

namespace AppCatalog

/-- What is done if a row that is added or changed violates a constraint. -/
inductive OnConflict where
  | rollback
  | abort
  | fail
  | ignore
  | replace
  deriving Repr, DecidableEq

/-- An operator on one value. -/
inductive Unary where
  | not
  | minus
  | plus
  | complement
  deriving Repr, DecidableEq

/-- An operator on two values. -/
inductive Binary where
  | or
  | and
  | eq
  | ne
  | lt
  | le
  | gt
  | ge
  | is
  | isNot
  | bitAnd
  | bitOr
  | shiftLeft
  | shiftRight
  | add
  | subtract
  | multiply
  | divide
  | remainder
  | concat
  deriving Repr, DecidableEq

/-- How the rows of two selections are put together. -/
inductive Compound where
  | union
  | unionAll
  | except
  | intersect
  deriving Repr, DecidableEq

/-- How a source of rows is joined with those before it. -/
structure JoinKind where
  /-- Whether columns of the same name are the same. -/
  isNatural : Bool := false
  /-- Whether rows before it stay that no row of it goes with. -/
  keepsLeft : Bool := false
  /-- Whether its rows stay that go with no row before it. -/
  keepsRight : Bool := false
  /-- Whether the sources before it are gone through first. -/
  isOrdered : Bool := false
  deriving Repr, DecidableEq

/-- What is said about the index by which the rows of a source are found. -/
inductive IndexHint where
  | named (name : String)
  | none
  deriving Repr, DecidableEq

/-- What the rows around a row are counted in. -/
inductive FrameUnit where
  | rows
  | range
  | groups
  deriving Repr, DecidableEq

/-- Which of the rows around a row are left out. -/
inductive FrameExclusion where
  | nothing
  | currentRow
  | group
  | ties
  deriving Repr, DecidableEq

mutual

/-- An expression. -/
inductive Expression where
  | null
  | integer (value : Int)
  | real (bits : UInt64)
  | text (value : String)
  | blob (bytes : Block)
  | column (table? : Option String) (name : String) (isQuoted : Bool)
  /-- A column of a table of another database. -/
  | foreign (schema table name : String)
  | truth (value : Bool)
  /-- A number to base sixteen with too many digits. -/
  | tooLong (text : String)
  | variable
  /-- The time at which the statement runs, shown in one of three ways. -/
  | time (shown : String)
  | collate (operand : Expression) (name : String)
  | cast (operand : Expression) (type : String)
  | unary (op : Unary) (operand : Expression)
  | binary (op : Binary) (left right : Expression)
  | isNull (operand : Expression)
  | notNull (operand : Expression)
  /-- Whether a text has a form; the function that tells is named. -/
  | like (function : String) (negated : Bool) (arguments : List Expression)
  | between (negated : Bool) (operand low high : Expression)
  | inList (negated : Bool) (operand : Expression) (list : List Expression)
  | inSelection (negated : Bool) (operand : Expression) (selection : Selection)
  | exists (selection : Selection)
  | scalar (selection : Selection)
  | case (operand? : Option Expression) (branches : List (Expression × Expression))
      (otherwise? : Option Expression)
  | call (function : String) (isDistinct : Bool) (arguments : List Expression)
  /-- A function of all rows. -/
  | callAll (function : String)
  /-- A function of some rows: in an order, those that satisfy a condition, or those around a
  row. -/
  | callOver (function : String) (isAll isDistinct : Bool) (arguments : List Expression)
      (order : List (Expression × Bool × Option Bool)) (filter? : Option Expression)
      (window? : Option Window)
  /-- Ends the statement, or what a trigger does with a row. -/
  | raise (action : OnConflict) (message : String)
  | row (items : List Expression)

/-- An end of the rows around a row. -/
inductive FrameEdge where
  | unboundedPreceding
  | preceding (distance : Expression)
  | currentRow
  | following (distance : Expression)
  | unboundedFollowing

/-- Which of the rows around a row are meant. -/
inductive Frame where
  | mk (unit : FrameUnit) (start stop : FrameEdge) (exclusion : FrameExclusion)

/-- The rows around a row: a window of that name, or one that may start from another one. -/
inductive Window where
  | named (name : String)
  | defined (base? : Option String) (partition : List Expression)
      (order : List (Expression × Bool × Option Bool)) (frame? : Option Frame)

/-- A column of the result of a selection. -/
inductive ResultColumn where
  | all
  | allOf (table : String)
  /-- A value, its name if it has one, and its text. -/
  | value (expression : Expression) (name? : Option String) (text : String)

/-- What a selection takes rows from. -/
inductive Origin where
  /-- A table, perhaps of a certain database. -/
  | table (schema? : Option String) (name : String) (hint? : Option IndexHint)
  /-- A function that gives rows. -/
  | function (schema? : Option String) (name : String) (arguments : List Expression)
  | selection (selection : Selection)
  /-- Sources that are joined with each other first. -/
  | sources (sources : List Source)

/-- Where a selection takes rows from, and what makes its rows go with those before. -/
inductive Source where
  | mk (origin : Origin) (alias? : Option String) (join : JoinKind)
      (condition? : Option Expression) (shared? : Option (List String))

/-- A selection of rows. -/
inductive Selection where
  | plain (isDistinct : Bool) (columns : List ResultColumn) (sources : List Source)
      (condition? : Option Expression) (groups : List Expression) (having? : Option Expression)
      (windows : List (String × Window))
  | values (rows : List (List Expression))
  | compound (op : Compound) (left right : Selection)
  | ordered (selection : Selection) (order : List (Expression × Bool × Option Bool))
      (limit? offset? : Option Expression)
  /-- A selection that knows others by name. Whether they are kept apart is said with them. -/
  | withNames (names : List (String × List String × Option Bool × Selection))
      (selection : Selection)
  /-- A selection that is kept elsewhere under a number. -/
  | known (number : Nat)

end

instance : Inhabited Expression := ⟨.null⟩

instance : Inhabited Selection := ⟨.values []⟩

/-- What a source takes rows from. An index that is named for it is not meant any more. -/
def Source.origin : Source → Origin
  | .mk (.table schema? name _) _ _ _ _ => .table schema? name none
  | .mk origin _ _ _ _ => origin

instance : Inhabited Source := ⟨.mk (.sources []) none {} none none⟩

/-- A column of an index or of a key: what is ordered, by which order of texts if that is said, and
whether backwards. -/
structure IndexTerm where
  expression : Expression
  collation? : Option String := none
  descending : Bool := false

/-- Some columns that get values together. -/
structure Assignment where
  columns : List String
  value : Expression

/-- What is done in place of inserting a row that is there already. -/
structure Upsert where
  /-- What makes the row be there already; anything if nothing is said. -/
  target : List IndexTerm
  targetCondition? : Option Expression
  /-- The changes of the row that is there; none at all if it is left alone. -/
  assignments? : Option (List Assignment)
  condition? : Option Expression

/-- What a trigger does with a row. -/
inductive TriggerStep where
  | insert (onConflict : Option OnConflict) (table : String) (columns : List String)
      (selection : Selection) (upserts : List Upsert)
  | update (onConflict : Option OnConflict) (table : String) (assignments : List Assignment)
      (sources : List Source) (condition? : Option Expression)
  | delete (table : String) (condition? : Option Expression)
  | select (selection : Selection)

/-- What a trigger waits for. -/
inductive TriggerEvent where
  | insert
  | delete
  /-- A change of one of some columns, or of any. -/
  | update (columns : List String)
  deriving Repr, DecidableEq

/-- When a trigger does something. -/
inductive TriggerTime where
  | before
  | after
  | instead
  deriving Repr, DecidableEq

end AppCatalog
