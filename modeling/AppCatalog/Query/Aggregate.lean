import AppCatalog.Json.Function
import AppCatalog.Query.Function
import AppCatalog.Query.Sum

/-!
# Functions of several rows

What a function makes of the arguments that several rows have for it, first to last. Of rows that
are the same but one is taken where that is asked for.
-/

namespace AppCatalog

namespace Value

/-- Texts put together. Each but the first stands behind what its own row puts before it, and rows
without a text count for nothing. -/
def gathered (encoding : Encoding) (rows : List (List Value)) : Value :=
  let texts := rows.filter fun row => !(row.headD null).isNull
  match texts with
  | [] => null
  | first :: rest =>
    let start := (first.headD null).textBytes encoding
    let add (found : Block) (row : List Value) : Block :=
      let between : Block := match row[1]? with
        | some between => between.textBytes encoding
        | none => #[44]
      found ++ between ++ (row.headD null).textBytes encoding
    ofUtf8 encoding (rest.foldl add start)

/-- The least or the greatest of some values; of equal ones the first. What is nothing counts for
nothing. -/
def bestOf (encoding : Encoding) (collation : Collation) (wanted : Ordering)
    (values : List Value) : Value :=
  values.foldl (fun best value =>
    if value.isNull then best
    else if best.isNull || value.compareTo encoding collation best = wanted then value
    else best) null

/-- Values without those that are there before them. -/
def distinct (encoding : Encoding) (collation : Collation) (values : List Marked) :
    List Marked :=
  values.foldl (fun found value =>
    if found.any fun other =>
        other.value.compareTo encoding collation value.value = .eq then found
    else found ++ [value]) []

end Value

namespace Marked

/-- What a function of several rows makes of the arguments that they have for it. -/
def aggregate (encoding : Encoding) (collation : Collation) (name : String)
    (rows : List (List Marked)) : Except SqlError Marked := do
  let values := rows.map fun row => (row.head?.map (·.value)).getD .null
  let isBinary := name.startsWith "jsonb" && !rows.isEmpty
  match name with
  | "count" =>
    let counted := rows.filter fun row => row.isEmpty || !(row.all (·.value.isNull))
    return { value := .integer counted.length }
  | "min" => return { value := Value.bestOf encoding collation .lt values }
  | "max" => return { value := Value.bestOf encoding collation .gt values }
  | "group_concat" => return { value := Value.gathered encoding (rows.map (·.map (·.value))) }
  | "string_agg" => return { value := Value.gathered encoding (rows.map (·.map (·.value))) }
  | "json_group_array" =>
    JsonTree.listOf encoding isBinary (rows.map fun row => row.headD { value := .null })
  | "jsonb_group_array" =>
    JsonTree.listOf encoding isBinary (rows.map fun row => row.headD { value := .null })
  | "json_group_object" => JsonTree.groupedObject encoding isBinary rows
  | "jsonb_group_object" => JsonTree.groupedObject encoding isBinary rows
  | _ =>
    let sum := values.foldl (Sum.add encoding) {}
    match sum.called? name with
    | some result => return { value := ← result }
    | none => return { value := .null }

end Marked
end AppCatalog
