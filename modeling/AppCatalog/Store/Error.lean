import AppCatalog.Database.Error
import AppCatalog.Text.Utf8

/-!
# Why a store does not answer

The database may refuse a statement or a file, there may be no connection to it, or a row may not
hold what is asked of it: a column is missing, or its value is of another kind or is a text that is
not well-formed.
-/

namespace AppCatalog

/-- The kinds of values that there are besides the one that stands for none. -/
inductive ValueKind where
  | integer
  | real
  | text
  | blob
  deriving Repr, DecidableEq

namespace ValueKind

/-- The name of a kind of values. -/
def title : ValueKind → String
  | integer => "INTEGER"
  | real => "REAL"
  | text => "TEXT"
  | blob => "BLOB"

end ValueKind

/-- What is asked of a value of a row. -/
inductive Wanted where
  | text
  | integer
  deriving Repr, DecidableEq

namespace Wanted

/-- The kind of values that are what is asked for. -/
def kind : Wanted → ValueKind
  | text => .text
  | integer => .integer

/-- What a value becomes. -/
def title : Wanted → String
  | text => "alloc::string::String"
  | integer => "i64"

end Wanted

/-- Why a value is not what is asked for. -/
inductive Misfit where
  | kind (wanted : Wanted) (found : ValueKind)
  | text (flaw : Utf8.Flaw)
  deriving Repr, DecidableEq

/-- What is said of a value that is not what is asked for. -/
def Misfit.detail : Misfit → String
  | kind wanted found =>
    "mismatched types; Rust type \x60" ++ wanted.title ++ "\x60 (as SQL type \x60"
      ++ wanted.kind.title ++ "\x60) is not compatible with SQL type \x60" ++ found.title ++ "\x60"
  | text flaw => flaw.detail

/-- How a column of a row is asked for. -/
inductive ColumnLabel where
  | named (name : String)
  | numbered (n : Nat)
  deriving Repr, DecidableEq

/-- How a column is spoken of. -/
def ColumnLabel.shown : ColumnLabel → String
  | named name => "\"" ++ name ++ "\""
  | numbered n => toString n

/-- Why a store does not answer. -/
inductive StoreError where
  /-- The database refuses a statement or a file. -/
  | refused (cause : SqlError)
  | nulInFileName
  | poolClosed
  | poolTimedOut
  | rowNotFound
  | workerCrashed
  | columnNotFound (name : String)
  /-- A value of a row is not what is asked for. -/
  | unfitValue (column : ColumnLabel) (cause : Misfit)
  | typeNotFound (name : String)
  | invalidData (detail : String)
  deriving Repr, DecidableEq

/-- What happened, without the part that went wrong. -/
def StoreError.detail : StoreError → String
  | refused cause => cause.message
  | nulInFileName =>
    "error communicating with database: filename passed to SQLite must not contain nul bytes"
  | poolClosed => "attempted to acquire a connection on a closed pool"
  | poolTimedOut => "pool timed out while waiting for an open connection"
  | rowNotFound => "no rows returned by a query that expected to return at least one row"
  | workerCrashed => "attempted to communicate with a crashed background worker"
  | columnNotFound name => "no column found for name: " ++ name
  | unfitValue column cause =>
    "error occurred while decoding column " ++ column.shown ++ ": " ++ cause.detail
  | typeNotFound name => "type named " ++ name ++ " not found"
  | invalidData detail => "encountered unexpected or invalid data: " ++ detail

/-- The message of an error. -/
def StoreError.message (error : StoreError) : String :=
  "Database error: " ++ error.detail

end AppCatalog
