import AppCatalog.Schema.Definition

/-!
# Functions by name

Which functions expressions can call, and with how many arguments. What they compute is not said
here.
-/

namespace AppCatalog

/-- What kind of function it is. -/
inductive FunctionKind where
  | scalar
  /-- It combines the values of all rows. -/
  | aggregate
  /-- It only makes sense for the rows around a row. -/
  | window
  /-- It is known by name only, so that tables of some modules may define it. -/
  | reserved
  deriving Repr, DecidableEq

/-- How a function is called. -/
structure FunctionRule where
  name : String
  /-- The least number of arguments. -/
  least : Nat
  /-- The greatest number of arguments, if there is one. -/
  most? : Option Nat
  kind : FunctionKind := .scalar
  /-- Whether the same arguments always give the same value. -/
  isConstant : Bool := true
  /-- Whether a statement gets the same value for the same arguments wherever it asks. -/
  isSteady : Bool := true

namespace FunctionRule

/-- A function of so many arguments. -/
def exactly (name : String) (count : Nat) : FunctionRule :=
  { name, least := count, most? := some count }

/-- A function of at least so many arguments, and at most some. -/
def between (name : String) (least most : Nat) : FunctionRule :=
  { name, least, most? := some most }

/-- A function of any number of arguments from one on. -/
def many (name : String) (least : Nat) : FunctionRule :=
  { name, least, most? := none }

/-- A function of so many arguments that may give another value each time. -/
def volatile (name : String) (count : Nat) : FunctionRule :=
  { exactly name count with isConstant := false, isSteady := false }

/-- A function of so many arguments that gives another value another day. -/
def passing (name : String) (count : Nat) : FunctionRule :=
  { exactly name count with isConstant := false }

/-- A function of all rows. -/
def aggregate (name : String) (least most : Nat) : FunctionRule :=
  { between name least most with kind := .aggregate }

/-- A function of the rows around a row. -/
def window (name : String) (least most : Nat) : FunctionRule :=
  { between name least most with kind := .window }

/-- A function that only tables of some modules define. -/
def reserved (name : String) (count? : Option Nat) : FunctionRule where
  name := name
  least := count?.getD 0
  most? := count?
  kind := .reserved
  isConstant := false
  isSteady := false

/-- Whether it combines the values of several rows. -/
def isAggregate (rule : FunctionRule) : Bool := rule.kind = .aggregate || rule.kind = .window

/-- Whether the order of rows does not matter to it. -/
def ignoresOrder (rule : FunctionRule) : Bool := ["count", "min", "max"].contains rule.name

/-- Whether it gives the least or the greatest value. -/
def isExtreme (rule : FunctionRule) : Bool := ["min", "max"].contains rule.name

/-- Functions of values. -/
def values : List FunctionRule :=
  [many "coalesce" 2, exactly "ifnull" 2, exactly "nullif" 2, exactly "iif" 3,
    exactly "likely" 1, exactly "unlikely" 1, exactly "likelihood" 2,
    between "ltrim" 1 2, between "rtrim" 1 2, between "trim" 1 2, many "min" 2, many "max" 2,
    exactly "typeof" 1, exactly "subtype" 1, exactly "length" 1, exactly "octet_length" 1,
    exactly "instr" 2, many "printf" 0, many "format" 0, exactly "unicode" 1, many "char" 0,
    exactly "abs" 1, exactly "sign" 1, between "round" 1 2, exactly "upper" 1, exactly "lower" 1,
    exactly "hex" 1, between "unhex" 1 2, many "concat" 1, many "concat_ws" 2,
    exactly "quote" 1, exactly "replace" 3, exactly "zeroblob" 1, exactly "soundex" 1,
    between "substr" 2 3, between "substring" 2 3, exactly "glob" 2, between "like" 2 3,
    volatile "random" 0, volatile "randomblob" 1, passing "sqlite_version" 0,
    passing "sqlite_source_id" 0, passing "sqlite_compileoption_used" 1,
    passing "sqlite_compileoption_get" 1, volatile "sqlite_log" 2,
    volatile "last_insert_rowid" 0, volatile "changes" 0, volatile "total_changes" 0,
    many "julianday" 0, many "unixepoch" 0, many "date" 0, many "time" 0, many "datetime" 0,
    many "strftime" 0, exactly "timediff" 2, passing "current_date" 0, passing "current_time" 0,
    passing "current_timestamp" 0]

/-- Functions that read and write JSON. -/
def json : List FunctionRule :=
  [exactly "json" 1, exactly "jsonb" 1, many "json_array" 0, many "jsonb_array" 0,
    between "json_array_length" 1 2, exactly "json_error_position" 1, many "json_extract" 0,
    many "jsonb_extract" 0, exactly "->" 2, exactly "->>" 2, many "json_insert" 0,
    many "jsonb_insert" 0, many "json_object" 0, many "jsonb_object" 0, exactly "json_patch" 2,
    exactly "jsonb_patch" 2, between "json_pretty" 1 2, exactly "json_quote" 1,
    many "json_remove" 0, many "jsonb_remove" 0, many "json_replace" 0, many "jsonb_replace" 0,
    many "json_set" 0, many "jsonb_set" 0, between "json_type" 1 2, between "json_valid" 1 2]

/-- Functions of several rows. -/
def ofRows : List FunctionRule :=
  [aggregate "min" 1 1, aggregate "max" 1 1, aggregate "count" 0 1, aggregate "sum" 1 1,
    aggregate "total" 1 1, aggregate "avg" 1 1, aggregate "group_concat" 1 2,
    aggregate "string_agg" 2 2, aggregate "json_group_array" 1 1,
    aggregate "jsonb_group_array" 1 1, aggregate "json_group_object" 2 2,
    aggregate "jsonb_group_object" 2 2, window "row_number" 0 0, window "rank" 0 0,
    window "dense_rank" 0 0, window "percent_rank" 0 0, window "cume_dist" 0 0,
    window "ntile" 1 1, window "first_value" 1 1, window "last_value" 1 1,
    window "nth_value" 2 2, window "lead" 1 3, window "lag" 1 3]

/-- Functions that only tables of some modules define. -/
def others : List FunctionRule :=
  [reserved "match" (some 2), reserved "snippet" none, reserved "offsets" (some 1),
    reserved "matchinfo" (some 1), reserved "matchinfo" (some 2), reserved "optimize" (some 1),
    reserved "bm25" none, reserved "highlight" none]

/-- All functions. -/
def all : List FunctionRule := values ++ json ++ ofRows ++ others

/-- The functions of that name. -/
def named (name : String) : List FunctionRule :=
  let name := name.toLower
  all.filter (·.name = name)

/-- Whether the function can be called with so many arguments. -/
def accepts (rule : FunctionRule) (count : Nat) : Bool :=
  rule.least ≤ count && rule.most?.all (count ≤ ·)

/-- The function that is called by a name with so many arguments. -/
def find? (name : String) (count : Nat) : Option FunctionRule :=
  (named name).find? (·.accepts count)

end FunctionRule
end AppCatalog
