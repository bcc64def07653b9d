import AppCatalog.Query.Outline

/-!
# Looking up names

The rows that an expression can speak of, and what a name stands for among them. An inner selection
sees the rows of the ones around it, but looks for a name among its own first. Besides those of the
sources there may be rows that are given, like those that a trigger is about, and the columns of the
result may have names of their own.
-/

namespace AppCatalog

/-- A row that is given. -/
structure GivenRow where
  source : QuerySource
  /-- Whether its columns say nothing about how they are compared. -/
  isBare : Bool := false

/-- A column of the result that others can speak of. -/
structure ResultAlias where
  name? : Option String
  term : Term
  width : Nat
  hasAggregate : Bool := false
  hasWindow : Bool := false

/-- The rows of one selection, and what expressions may do there. -/
structure Sight where
  sources : List OutlineSource := []
  /-- The columns of the result, if they can be spoken of. -/
  aliases : List ResultAlias := []
  windows : List (String × Window) := []
  /-- The number of the branch whose rows they are. -/
  branch? : Option Nat := none
  mayAggregate : Bool := false
  mayWindow : Bool := false
  /-- Whether expressions are conditions on rows. -/
  isCondition : Bool := false
  /-- Rows that can be spoken of only here. -/
  given : List GivenRow := []
  /-- How often its rows were spoken of from the inside or by itself. -/
  references : Nat := 0
  hasAggregate : Bool := false
  hasExtreme : Bool := false
  needsOrder : Bool := false
  hasWindow : Bool := false

instance : Inhabited Sight := ⟨{}⟩

/-- What a name stands for. -/
inductive Meaning where
  | field (field : Field)
  /-- The first of some columns that has a value. -/
  | firstOf (fields : List Field)
  | alias (one : ResultAlias)
  | ambiguous
  | absent

/-- What was found among sources so far. -/
structure Findings where
  count : Nat := 0
  /-- The column that was found last. -/
  last? : Option Field := none
  /-- Columns before it of which the first with a value counts. -/
  before : List Field := []
  /-- Sources whose rows have numbers, as long as no column is found. -/
  numbered : Nat := 0
  number? : Option Field := none

namespace Findings

/-- What is found with one more column of a source. A column that the source shares with those
before is found there, unless the source keeps its own rows. -/
def add (findings : Findings) (source : OutlineSource) (name : String) (column : Field) :
    Findings :=
  let joining := source.source.joining
  if findings.count = 0 then { findings with count := 1, last? := some column }
  else if !source.shares name then
    { findings with count := findings.count + 1, last? := some column, before := [] }
  else if !joining.keepsRight then findings
  else if !joining.keepsLeft then { findings with count := 1, last? := some column, before := [] }
  else
    { findings with
      count := findings.count + 1, last? := some column
      before := findings.before ++ findings.last?.toList }

/-- What is found with one more number of a row. -/
def addNumber (findings : Findings) (number : Field) : Findings :=
  if findings.count = 0 then
    { findings with numbered := findings.numbered + 1, number? := some number }
  else findings

/-- What a name stands for by what was found; the name may ask for the number of a row. -/
def meaning (findings : Findings) (asksForNumber : Bool) : Meaning :=
  match findings.count, findings.last? with
  | 1, some column => .field column
  | 0, _ =>
    match asksForNumber, findings.numbered, findings.number? with
    | true, 1, some number => .field number
    | true, _, some _ => .ambiguous
    | _, _, _ => .absent
  | count, some last =>
    if !findings.before.isEmpty && findings.before.length + 1 = count then
      .firstOf (findings.before ++ [last])
    else .ambiguous
  | _, none => .ambiguous

end Findings

namespace OutlineSource

/-- Whether a source is one of that schema and that name, if they are given. -/
def isCalled (source : OutlineSource) (schema? table? : Option String) : Bool :=
  let isNamed (table : String) : Bool :=
    match source.source.alias? with
    | some title => Table.sameName title table
    | none =>
      Table.sameName source.source.name table ||
        (source.source.table?.any fun found => found.root = 1) &&
          ["sqlite_master", "sqlite_schema"].contains table.toLower
  table?.all isNamed && schema?.all (Table.sameName source.schema)

/-- What is found with those columns of a source that a name may stand for. -/
def search (source : OutlineSource) (schema? table? : Option String) (name : String)
    (findings : Findings) : Findings :=
  let own := source.source
  let labels := (source.labels?.getD []).zipIdx
  let named := (labels.filter (·.1.isNamed schema? table? name)).map (·.2)
  let isCommon (n : Nat) : Bool := labels.any fun (label, m) =>
    m = n && match label with
      | .common _ => true
      | _ => false
  let named := match named.find? isCommon with
    | some n => named.takeWhile (· ≠ n) ++ [n]
    | none => named
  let numbered := (labels.filter (·.1.isRowidOf schema? table? name)).map (·.2)
  let findings := named.foldl (fun findings n => findings.add source name (own.field (some n)))
    findings
  let findings := numbered.foldl (fun findings n =>
    findings.addNumber { own.field (some n) with affinity? := some .integer }) findings
  if source.labels?.isSome && (!named.isEmpty || table?.isNone) then findings
  else if !source.isCalled schema? table? then findings
  else
    match source.find? name with
    | some n => findings.add source name (own.field (some n))
    | none => if own.hasRowid then findings.addNumber (own.field none) else findings

end OutlineSource

namespace GivenRow

/-- The column of a row that is given, or its number. -/
def find? (row : GivenRow) (name : String) : Option Field :=
  let field (column? : Option Nat) : Field :=
    let found := row.source.field column?
    { found with
      isScanned := false
      affinity? := if found.column?.isNone && !row.isBare then some .integer else none
      collation? := if row.isBare then none else found.collation? }
  match row.source.heads.findIdx? (Table.sameName ·.name name) with
  | some n => some (field (some n))
  | none =>
    if row.source.hasRowid && Table.isRowidName name then some (field none) else none

end GivenRow

namespace Sight

/-- What a name stands for in a sight. Rows that are given everywhere are `given`. -/
def look (sight : Sight) (given : List GivenRow) (schema? table? : Option String)
    (name : String) : Meaning :=
  let findings := sight.sources.foldl (fun findings source =>
    source.search schema? table? name findings) {}
  let given? : Option Field :=
    match schema?, table? with
    | none, some table =>
      ((sight.given ++ given).filter fun row => Table.sameName row.source.name table).findSome?
        (·.find? name)
    | _, _ => none
  let alias? :=
    if table?.isSome then none
    else sight.aliases.find? fun one => one.name?.any (Table.sameName name)
  match findings.count, given? with
  | 0, some field => .field field
  | _, _ =>
    match findings.meaning (Table.isRowidName name), alias? with
    | .absent, some one => .alias one
    | meaning, _ => meaning

/-- What a name stands for, inside out, and how many sights were looked through. -/
def lookAll (given : List GivenRow) (schema? table? : Option String) (name : String) :
    List Sight → (depth : Nat) → Meaning × Nat
  | [], depth => (.absent, depth)
  | sight :: outer, depth =>
    match sight.look given schema? table? name with
    | .absent => lookAll given schema? table? name outer (depth + 1)
    | meaning => (meaning, depth + 1)

end Sight
end AppCatalog
