import AppCatalog.Query.Basic

/-!
# Functions that give rows

Which functions give rows, and the columns of their rows. Hidden columns are what the functions are
called with.
-/

namespace AppCatalog
namespace Supplier

/-- A column that values are left in as they are. -/
def column (name : String) : Head :=
  { name, affinity? := some .blob, collation? := some .binary }

/-- A column of that type. -/
def typed (name type : String) : Head :=
  { name, affinity? := some (Affinity.ofType type), collation? := some .binary }

/-- A hidden column. -/
def hidden (head : Head) : Head := { head with isHidden := true }

/-- A function that reads JSON. -/
def ofJson (name : String) : Supplier where
  name := name
  heads := ["key", "value", "type", "atom", "id", "parent", "fullkey", "path"].map column
    ++ ["json", "root"].map fun name => hidden (column name)

/-- The columns that tell about the schema: for each function its name, its columns, and whether it
has an argument. -/
def schemaColumns : List (String × List String × Bool) :=
  [("table_info", ["cid", "name", "type", "notnull", "dflt_value", "pk"], true),
    ("table_xinfo", ["cid", "name", "type", "notnull", "dflt_value", "pk", "hidden"], true),
    ("table_list", ["schema", "name", "type", "ncol", "wr", "strict"], true),
    ("index_info", ["seqno", "cid", "name"], true),
    ("index_xinfo", ["seqno", "cid", "name", "desc", "coll", "key"], true),
    ("index_list", ["seq", "name", "unique", "origin", "partial"], true),
    ("foreign_key_list",
      ["id", "seq", "table", "from", "to", "on_update", "on_delete", "match"], true),
    ("database_list", ["seq", "name", "file"], false),
    ("collation_list", ["seq", "name"], false),
    ("user_version", ["user_version"], false),
    ("application_id", ["application_id"], false),
    ("schema_version", ["schema_version"], false),
    ("page_count", ["page_count"], false),
    ("page_size", ["page_size"], false),
    ("freelist_count", ["freelist_count"], false),
    ("encoding", ["encoding"], false)]

/-- The functions that tell about the schema. -/
def ofSchema : List Supplier :=
  schemaColumns.map fun (name, columns, hasArgument) =>
    { name := "pragma_" ++ name
      heads := columns.map column
        ++ (if hasArgument then [hidden (column "arg")] else [])
        ++ [hidden (column "schema")] }

/-- The function that tells about pages. -/
def ofPages : Supplier where
  name := "dbstat"
  heads :=
    [typed "name" "text", typed "path" "text", typed "pageno" "integer", typed "pagetype" "text",
      typed "ncell" "integer", typed "payload" "integer", typed "unused" "integer",
      typed "mx_payload" "integer", typed "pgoffset" "integer", typed "pgsize" "integer",
      hidden (typed "schema" "text"), hidden (typed "aggregate" "boolean")]

/-- All functions that give rows. -/
def all : List Supplier := [ofJson "json_each", ofJson "json_tree"] ++ ofSchema ++ [ofPages]

/-- The function of that name. -/
def find? (name : String) : Option Supplier :=
  let name := name.toLower
  all.find? (·.name = name)

/-- The function that makes up the rows of a table of a module of that name. Those that tell about
the schema cannot. -/
def ofModule? (name : String) : Option Supplier :=
  let name := name.toLower
  ([ofJson "json_each", ofJson "json_tree"] : List Supplier).find? (·.name = name)

/-- Whether a definition must not ask for the rows. -/
def isReserved (supplier : Supplier) : Bool := supplier.name = "dbstat"

end Supplier
end AppCatalog
