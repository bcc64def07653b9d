import AppCatalog.Query.Station
import AppCatalog.Query.Supplier

/-!
# Rows of functions that give rows
-/

namespace AppCatalog
namespace Supplier

/-- The rows that a function gives for some of its hidden columns, which are told by their places. -/
def rows (_supplier : Supplier) (_schema : Schema) (_arguments : List (Nat × Value)) :
    Run (List (List Marked)) :=
  return []

end Supplier
end AppCatalog
