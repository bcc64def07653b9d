import AppCatalog.Decimal.Double

/-!
# TOML values

The values that a document holds. A table keeps its entries in the order in which the document
introduces them, and its keys are distinct. Dates and times are well-formed or not; which date
or time one is makes no difference here, so the value does not keep it.
-/

namespace AppCatalog.Toml

/-- A TOML value. -/
inductive Value where
  | text (value : String)
  | integer (value : Int)
  | float (value : Double)
  | boolean (value : Bool)
  | dateTime
  | array (items : List Value)
  | table (entries : List (String × Value))

/-- The entries of a table, in document order. -/
abbrev Entries : Type := List (String × Value)

end AppCatalog.Toml
