import AppCatalog.Records.Number

/-!
# Affinities

What a column makes of a value before it is stored or compared: texts that show numbers become
numbers in a column for numbers, and numbers become texts in a column for texts. The name of a
column's type says which of the two it is, if any.
-/

namespace AppCatalog

/-- What a column makes of values. -/
inductive Affinity where
  | blob
  | text
  | numeric
  | integer
  | real
  deriving Repr, DecidableEq

namespace Affinity

/-- Whether the column is for numbers. -/
def isNumeric : Affinity → Bool
  | blob => false
  | text => false
  | _ => true

/-! ## Names of types -/

/-- Whether a text starts with another one. -/
def startsWith (start text : List Char) : Bool := start.isPrefixOf text

/-- The affinity of a type from the rest of its name on. -/
def ofTypeFrom : (found : Affinity) → List Char → Affinity
  | found, [] => found
  | found, c :: rest =>
    let here := c :: rest
    if startsWith ['i', 'n', 't'] here then integer
    else
      let isText := startsWith ['c', 'h', 'a', 'r'] here || startsWith ['c', 'l', 'o', 'b'] here
        || startsWith ['t', 'e', 'x', 't'] here
      let isBlob := startsWith ['b', 'l', 'o', 'b'] here
      let isReal := startsWith ['r', 'e', 'a', 'l'] here || startsWith ['f', 'l', 'o', 'a'] here
        || startsWith ['d', 'o', 'u', 'b'] here
      if isText then ofTypeFrom text rest
      else if isBlob ∧ (found = numeric ∨ found = real) then ofTypeFrom blob rest
      else if isReal ∧ found = numeric then ofTypeFrom real rest
      else ofTypeFrom found rest

/-- The affinity of a column whose type has that name; a column without a type has none. -/
def ofType (name : String) : Affinity :=
  let name := name.toLower
  if name = "" then blob
  else if name = "any" then numeric
  else ofTypeFrom numeric name.toList

/-- The affinity that a value is turned to by the name of a type. -/
def ofCast (name : String) : Affinity := ofTypeFrom numeric name.toLower.toList

/-! ## Values -/

/-- The whole number in place of a floating-point number that is one. -/
def wholeIfExact (value : Value) : Value :=
  match value with
  | .real bits =>
    match (Double.ofBits bits).whole? with
    | some n => if Value.minInteger < n ∧ n < Value.maxInteger then .integer n else value
    | none => value
  | value => value

/-- The number that a text shows, if it shows one and nothing else. -/
def numberOf (encoding : Encoding) (value : Value) : Value :=
  match value with
  | .text bytes =>
    match Numeral.ofBytes? (encoding.toUtf8 bytes).toList with
    | some numeral => if numeral.isAll then numeral.value else value
    | none => value
  | value => value

/-- The text of a number. -/
def textOf (encoding : Encoding) (value : Value) : Value :=
  match value with
  | .integer _ => .ofString encoding value.shown
  | .real _ => .ofString encoding value.shown
  | value => value

/-- What a column makes of a value. -/
def apply (affinity : Affinity) (encoding : Encoding) (value : Value) : Value :=
  match affinity with
  | blob => value
  | text => textOf encoding value
  | numeric | integer => wholeIfExact (numberOf encoding value)
  | real =>
    match wholeIfExact (numberOf encoding value) with
    | .integer n => .ofDouble (.ofInt n)
    | value => value

/-- Whether a value is a text. -/
def isText : Value → Bool
  | .text _ => true
  | _ => false

/-- Compares two values. If one of them is a text, both become what the affinity says first. -/
def compareValues (affinity : Affinity) (encoding : Encoding) (collation : Collation)
    (a b : Value) : Ordering :=
  let convert : Value → Value :=
    if !isText a && !isText b then id
    else
      match affinity with
      | blob => id
      | text => textOf encoding
      | _ => numberOf encoding
  (convert a).compareTo encoding collation (convert b)

/-- The affinity of a comparison of expressions with these affinities; none stands for an
expression that is no column. -/
def ofComparison (a b : Option Affinity) : Affinity :=
  match a, b with
  | some a, some b => if a.isNumeric || b.isNumeric then numeric else blob
  | some a, none => a
  | none, some b => b
  | none, none => blob

end Affinity
end AppCatalog
