import AppCatalog.Records.Key
import AppCatalog.Schema.Definition

/-!
# Tables and indexes

What a database knows about its tables: their columns, the indexes on them, conditions on their
rows, and what triggers do. A table keeps its rows by a number of their own or by its primary key.
A view is a table without rows of its own.

How much room a row or an entry of an index takes is estimated from the types of columns, and how
many rows there are is a mere guess, unless somebody counted them.
-/

namespace AppCatalog

/-! ## Sizes -/

/-- Ten times the logarithm to base two, roughly. -/
def roughLog (n : Nat) : Nat :=
  let steps := [0, 2, 3, 5, 6, 7, 8, 9]
  if n < 2 then 0
  else
    let top := n.log2
    let leading := if top < 3 then n <<< (3 - top) else n >>> (top - 3)
    10 * top + steps.getD (leading % 8) 0

/-! ## Columns -/

/-- How a column is generated from others: when it is read, or when it is `stored`. -/
structure Generated where
  value : Expression
  stored : Bool

/-- A column of a table. -/
structure Column where
  name : String
  type : String := ""
  affinity : Affinity := .blob
  /-- Whether it belongs to the primary key. -/
  isKey : Bool := false
  collation : Collation := .binary
  /-- Whether it must have a value, and what is done if it has none. -/
  notNull? : Option OnConflict := none
  default? : Option Expression := none
  generated? : Option Generated := none

namespace Column

/-- The number that a text has first after some other characters, or zero. -/
def firstNumber (cs : List Char) : Nat :=
  ((cs.dropWhile (!·.isDigit)).takeWhile Char.isDigit).foldl
    (fun value c => value * 10 + (c.toNat - 48)) 0

/-- The rest of a text behind the last place where something stands in it. -/
def behindLast (word : List Char) : List Char → Option (List Char)
  | [] => none
  | c :: rest =>
    match behindLast word rest with
    | some found => some found
    | none => if word.isPrefixOf (c :: rest) then some ((c :: rest).drop word.length) else none

/-- Roughly how much room a value takes; a number takes one. -/
def width (column : Column) : Nat :=
  let type := column.type.toLower.toList
  let isPlain := ["blob", "text"].contains column.type.toLower
  let room (n : Nat) : Nat := min 255 (n / 4 + 1)
  match column.affinity with
  | .text | .blob =>
    if type = [] ∨ column.type.toLower = "any" then 1
    else if isPlain then 5
    else
      match behindLast ['c', 'h', 'a', 'r'] type, behindLast ['b', 'l', 'o', 'b'] type with
      | some rest, _ => room (firstNumber rest)
      | none, some ('(' :: rest) => room (firstNumber rest)
      | none, _ => 5
  | _ => 1

/-- Whether the column is generated. -/
def isGenerated (column : Column) : Bool := column.generated?.isSome

/-- Whether the column is generated when it is read, so that rows do not hold it. -/
def isVirtual (column : Column) : Bool := column.generated?.any (!·.stored)

end Column

/-! ## Indexes -/

/-- What an index orders by. -/
inductive IndexItem where
  | column (n : Nat)
  | rowid
  | expression (expression : Expression)

namespace IndexItem

/-- The column of the table that it is, if it is one. -/
def column? : IndexItem → Option Nat
  | column n => some n
  | _ => none

end IndexItem

/-- A column of an index. -/
structure IndexColumn where
  item : IndexItem
  key : KeyColumn := {}

/-- What was counted on an index. -/
structure Census where
  /-- The number of entries, and how many have the same values in the first columns: for one, for
  two and so on. Of each there is ten times its logarithm to base two. -/
  counts : List Nat
  /-- How much room an entry takes. -/
  size? : Option Nat := none
  /-- Whether the index is of no use for ranges. -/
  isUnordered : Bool := false
  /-- Whether all rows have the same values. -/
  isVague : Bool := false
  /-- Whether columns of the index may be passed over. -/
  mayBeSkipped : Bool := true

/-- Why there is an index. -/
inductive IndexKind where
  | created
  | unique
  | primaryKey
  deriving Repr, DecidableEq

/-- An index on a table. -/
structure Index where
  name : String
  /-- The root of its tree; zero if that is not known. -/
  root : Nat := 0
  kind : IndexKind := .created
  /-- Its columns; those behind the first `keyWidth` lead to the row. -/
  columns : List IndexColumn
  keyWidth : Nat
  isUnique : Bool
  /-- What is done if a row is not unique, if that is said. -/
  onConflict? : Option OnConflict := none
  /-- The condition on the rows that have an entry. -/
  condition? : Option Expression := none
  census? : Option Census := none

namespace Index

/-- Whether the index is that of the primary key. -/
def isPrimaryKey (index : Index) : Bool := index.kind = .primaryKey

/-- The columns by which entries are found. -/
def keyColumns (index : Index) : List IndexColumn := index.columns.take index.keyWidth

/-- How many entries have the same values in the first columns, where nothing was counted. -/
def guesses : List Nat := [33, 32, 30, 28, 26]

/-- What is guessed of an index on so many rows. -/
def guessed (index : Index) (rows : Nat) : List Nat :=
  let first := if index.condition?.isSome then rows - 10 else rows
  let others := (List.range index.keyWidth).map fun n => guesses.getD n 23
  first :: if index.isUnique then others.dropLast ++ [0] else others

/-- Whether an index has a column with the order of texts of one of its own. -/
def hasColumn (columns : List IndexColumn) (column : IndexColumn) : Bool :=
  columns.any fun other =>
    other.item.column? = column.item.column? && other.key.collation = column.key.collation

end Index

/-! ## Triggers and references -/

/-- A trigger. -/
structure Trigger where
  name : String
  time : TriggerTime
  event : TriggerEvent
  condition? : Option Expression
  steps : List TriggerStep

/-- A reference from some columns to those of a row of a table. -/
structure ForeignKey where
  /-- The places of its columns. -/
  columns : List Nat
  table : String
  /-- The names of the columns that it leads to, if they are said. -/
  parents : List String
  followUps : FollowUps := {}
  /-- Whether it is checked only when changes are kept. -/
  isDeferred : Bool := false

/-! ## Tables -/

/-- A table or a view. -/
structure Table where
  name : String
  root : Nat := 0
  columns : List Column
  /-- The column that holds the number of the row. -/
  rowidColumn? : Option Nat := none
  /-- What is done if the number of a row is in use. -/
  rowidConflict? : Option OnConflict := none
  /-- Whether numbers of rows are never used again. -/
  isCounted : Bool := false
  /-- Whether rows have numbers; else they are kept by the primary key. -/
  hasRowid : Bool := true
  isStrict : Bool := false
  /-- The indexes, the newest first; those that replace rows come last. -/
  indexes : List Index := []
  checks : List (Expression × String) := []
  foreignKeys : List ForeignKey := []
  /-- The triggers, the newest first. -/
  triggers : List Trigger := []
  /-- The names of its columns, if they are given, and its rows, if it is a view. -/
  view? : Option (Option (List String) × Selection) := none
  /-- The module that knows its rows, and what it is told, if the rows are not kept here. -/
  module? : Option (String × List String) := none
  /-- Ten times the logarithm of the number of rows. -/
  rowCount : Nat := 200
  /-- How much room a row takes, if that was told. -/
  size? : Option Nat := none

namespace Table

/-- Whether names are the same but for the case of letters. -/
def sameName (a b : String) : Bool := a.toLower = b.toLower

/-- The place of the column of that name. -/
def find? (table : Table) (name : String) : Option Nat :=
  table.columns.findIdx? (sameName ·.name name)

/-- The names by which the number of a row is asked for. -/
def rowidNames : List String := ["_rowid_", "rowid", "oid"]

/-- Whether a name asks for the number of a row. -/
def isRowidName (name : String) : Bool := rowidNames.contains name.toLower

/-- The place of a column in the records of the table; columns that are not stored have none. -/
def storedAt (table : Table) (n : Nat) : Nat :=
  ((table.columns.take n).filter (!·.isVirtual)).length

/-- The columns that rows hold, with their places. -/
def storedColumns (table : Table) : List (Nat × Column) :=
  (List.range table.columns.length).filterMap fun n =>
    (table.columns[n]?).bind fun column => if column.isVirtual then none else some (n, column)

/-- The index of the primary key. -/
def primaryKey? (table : Table) : Option Index := table.indexes.find? (·.isPrimaryKey)

/-- Roughly how much room a row takes. -/
def rowSize (table : Table) : Nat :=
  let width := table.columns.foldl (fun total column => total + column.width) 0
  table.size?.getD (roughLog (4 * (width + if table.rowidColumn?.isNone then 1 else 0)))

/-- Roughly how much room an entry of an index takes. -/
def entrySize (table : Table) (index : Index) : Nat :=
  (index.census?.bind (·.size?)).getD <|
    roughLog <| 4 * index.columns.foldl (fun total column =>
      total + ((column.item.column?.bind (table.columns[·]?)).map Column.width).getD 1) 0

/-- Whether rows are unique by an index whose columns must all have a value. -/
def isBound (table : Table) (index : Index) : Bool :=
  index.isUnique && index.keyColumns.all fun column =>
    match column.item with
    | .column n => table.rowidColumn? = some n || table.columns[n]?.any (·.notNull?.isSome)
    | .rowid => true
    | .expression _ => false

/-- The number of entries of an index, and how many have the same values in the first columns. -/
def countsOf (table : Table) (index : Index) : List Nat :=
  match index.census? with
  | some census => census.counts
  | none => index.guessed table.rowCount

/-- The table with one more index: those that replace rows stay behind the others. -/
def addIndex (table : Table) (index : Index) : Table :=
  let all := index :: table.indexes
  let replaces (index : Index) : Bool := index.onConflict? = some .replace
  { table with indexes := all.filter (!replaces ·) ++ all.filter replaces }

/-- The order of the entries of an index. -/
def keyOrder (encoding : Encoding) (index : Index) : KeyOrder where
  encoding := encoding
  columns := index.columns.map (·.key)
  width := index.columns.length

end Table
end AppCatalog
