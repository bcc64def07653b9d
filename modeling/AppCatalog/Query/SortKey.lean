import AppCatalog.Query.Operator
import Std.Data.HashSet

/-!
# Rows in order

What rows are ordered by, and which rows are the same. Rows with the same keys stay in the order in
which they come. Values that compare as the same have one canonical form, so that it can be told at
once whether a row was there before.
-/

namespace AppCatalog

/-- What rows are ordered by: a value, the order of its texts, whether backwards, and whether rows
without a value come first. -/
structure SortKey where
  value : Value
  collation : Collation
  descending : Bool
  nullsFirst : Bool

namespace SortKey

/-- Compares two keys. -/
def order (encoding : Encoding) (a b : SortKey) : Ordering :=
  match a.value.isNull, b.value.isNull with
  | true, true => .eq
  | true, false => if a.nullsFirst then .lt else .gt
  | false, true => if a.nullsFirst then .gt else .lt
  | false, false =>
    let order := a.value.compareTo encoding a.collation b.value
    if a.descending then order.swap else order

/-- Compares keys, first to last. -/
def orderOfAll (encoding : Encoding) : List SortKey → List SortKey → Ordering
  | a :: as, b :: bs =>
    match order encoding a b with
    | .eq => orderOfAll encoding as bs
    | order => order
  | _, _ => .eq

/-- Whether some keys do not come behind others. -/
def isBefore (encoding : Encoding) (a b : List SortKey) : Bool := orderOfAll encoding a b ≠ .gt

/-- A key of a value that is ordered plainly. -/
def plain (value : Value) (collation : Collation) : SortKey := ⟨value, collation, false, true⟩

end SortKey

namespace Value

/-- The text in place of all texts that are the same in some order of texts. -/
def canonicalText (encoding : Encoding) (collation : Collation) (text : Block) : Block :=
  match collation with
  | .nocase =>
    let bytes := encoding.toUtf8 text
    let start := bytes.toList.takeWhile (· ≠ 0)
    let small := start.map fun byte => (Collation.lower byte.toNat).toUInt8
    small.toArray ++ Block.zeros (bytes.size - start.length)
  | .rtrim => Collation.trimmed (encoding.toUtf8 text)
  | _ => text

/-- The value in place of all values that are the same. -/
def canonical (encoding : Encoding) (collation : Collation) (value : Value) : Value :=
  match value with
  | .text content => .text (canonicalText encoding collation content)
  | .real bits =>
    match (Double.ofBits bits).whole? with
    | some n => if minInteger ≤ n ∧ n ≤ maxInteger then .integer n else value
    | none => value
  | value => value

/-- A number by which values are told apart. -/
def mix : Value → UInt64
  | .null => 7
  | .integer n => mixHash 11 (hash n)
  | .real bits => mixHash 13 bits
  | .text bytes => bytes.foldl (fun found byte => mixHash found byte.toUInt64) 17
  | .blob bytes => bytes.foldl (fun found byte => mixHash found byte.toUInt64) 19

instance : Hashable Value := ⟨mix⟩

end Value

/-- Rows that were there. -/
abbrev Seen : Type := Std.HashSet (List Value)

namespace Seen

/-- The row in place of all rows that are the same. -/
def row (encoding : Encoding) (collations : List Collation) (values : List Value) : List Value :=
  values.zipIdx.map fun (value, n) => value.canonical encoding (collations.getD n .binary)

end Seen
end AppCatalog
