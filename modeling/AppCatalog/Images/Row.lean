import AppCatalog.App
import AppCatalog.Records.Record
import AppCatalog.Store.Error

/-!
# Rows that answer

A row that a statement answers has names and values. A value is taken by the name of its column,
of which the last one of that name is meant, and has to be of the right kind: a text that is
well-formed, or a whole number. No value counts as an empty text, or as zero.
-/

namespace AppCatalog

namespace Value

/-- The kind of a value, if it is one. -/
def kind? : Value → Option ValueKind
  | null => none
  | integer _ => some .integer
  | real _ => some .real
  | text _ => some .text
  | blob _ => some .blob

/-- The bytes of a text that the database shows. -/
def shownBytes (encoding : Encoding) : Value → Bytes
  | text content => (encoding.toUtf8 content).toList
  | _ => []

/-- The text that a value is. -/
def asText (encoding : Encoding) (value : Value) : Except Misfit String :=
  match value.kind? with
  | none => .ok ""
  | some .text =>
    match Utf8.decode? (value.shownBytes encoding) with
    | some shown => .ok shown
    | none =>
      match Utf8.flaw? (value.shownBytes encoding) with
      | some flaw => .error (.text flaw)
      | none => .ok ""
  | some found => .error (.kind .text found)

/-- The whole number that a value is. -/
def asInteger (value : Value) : Except Misfit Int :=
  match value, value.kind? with
  | .integer n, _ => .ok n
  | _, none => .ok 0
  | _, some found => .error (.kind .integer found)

end Value

/-- A row that a statement answers. -/
structure AnswerRow where
  encoding : Encoding
  names : List String
  values : List Value

namespace AnswerRow

/-- The value of the last column of that name. -/
def value (row : AnswerRow) (name : String) : Except StoreError Value :=
  match (row.names.zip row.values).reverse.lookup name with
  | some value => .ok value
  | none => .error (.columnNotFound name)

/-- The text in a column. -/
def text (row : AnswerRow) (name : String) : Except StoreError String := do
  ((← row.value name).asText row.encoding).mapError (.unfitValue (.named name))

/-- The whole number in a column. -/
def integer (row : AnswerRow) (name : String) : Except StoreError Int := do
  (← row.value name).asInteger.mapError (.unfitValue (.named name))

/-- The entry of a listing that a row holds. -/
def summary (row : AnswerRow) : Except StoreError Summary := do
  return {
    identifier := ← row.text "identifier"
    name := ← row.text "name"
    description := ← row.text "description" }

/-- The app that a row holds. -/
def app (row : AnswerRow) : Except StoreError App := do
  return {
    id := ← row.text "id"
    identifier := ← row.text "identifier"
    name := ← row.text "name"
    description := ← row.text "description"
    source := ← row.text "source"
    createdAt := ← row.integer "created_at" }

end AnswerRow
end AppCatalog
