/-!
# Why a database refuses

The causes for which the database refuses a statement or a file. Each has a numeric code and a
text, and a constraint that a row violates has a code of its own.
-/

namespace AppCatalog

/-- What rows of a table must satisfy. -/
inductive Constraint where
  | check
  | foreignKey
  | notNull
  | primaryKey
  | rowid
  /-- What a trigger asks for. -/
  | trigger
  | unique
  /-- The type of a column of a strict table. -/
  | type
  deriving Repr, DecidableEq

namespace Constraint

/-- The numeric code of a violation. -/
def code : Constraint → Nat
  | check => 275
  | foreignKey => 787
  | notNull => 1299
  | primaryKey => 1555
  | rowid => 2579
  | trigger => 1811
  | unique => 2067
  | type => 3091

/-- What is said of a violation, with what is violated. -/
def detail (what : String) : Constraint → String
  | check => "CHECK constraint failed: " ++ what
  | foreignKey => "FOREIGN KEY constraint failed"
  | notNull => "NOT NULL constraint failed: " ++ what
  | primaryKey => "UNIQUE constraint failed: " ++ what
  | rowid => "UNIQUE constraint failed: " ++ what
  | trigger => what
  | unique => "UNIQUE constraint failed: " ++ what
  | type => what

end Constraint

/-- Why the database refuses a statement or a file. -/
inductive SqlError where
  | noSuchTable (name : String)
  /-- Another reason why a statement makes no sense. -/
  | senseless (detail : String)
  /-- An order of texts that nobody knows is asked for. -/
  | unknownCollation (name : String)
  | unsupportedFormat
  /-- A name of a database asks for something that is not known. -/
  | unknownOption (kind value : String)
  /-- A name of a database leads to another machine. -/
  | foreignAuthority (authority : String)
  /-- A name of a database asks for more rights than there are. -/
  | accessNotAllowed (mode : String)
  | readOnly
  /-- A change that was cut off cannot be taken back, because nothing may be written. -/
  | readOnlyRollback
  | malformed
  /-- The description of a table, or of something that belongs to one, makes no sense. -/
  | malformedSchema (name detail : String)
  /-- An index lacks an entry that must be there. -/
  | malformedIndex
  /-- The table that counts numbers of rows is not what it should be. -/
  | malformedCounters
  /-- There is no number for another row. -/
  | full
  | cannotOpen
  /-- Others would have to make way first. -/
  | lockingProtocol
  | tooBig
  /-- A row that cannot be added violates a constraint. -/
  | violated (constraint : Constraint) (what : String)
  /-- The number of a row is not a number. -/
  | mismatch
  | notADatabase
  | cannotRead
  /-- The file ends before what is to be read. -/
  | cutOff
  | cannotLookAt
  | cannotDelete
  deriving Repr, DecidableEq

namespace SqlError

/-- The numeric code of an error. -/
def code : SqlError → Nat
  | noSuchTable _ => 1
  | senseless _ => 1
  | unknownCollation _ => 257
  | unsupportedFormat => 1
  | unknownOption .. => 1
  | foreignAuthority _ => 1
  | accessNotAllowed _ => 3
  | readOnly => 8
  | malformed => 11
  | malformedSchema .. => 11
  | full => 13
  | cannotOpen => 14
  | lockingProtocol => 15
  | tooBig => 18
  | mismatch => 20
  | notADatabase => 26
  | cannotRead => 266
  | cutOff => 522
  | malformedCounters => 523
  | readOnlyRollback => 776
  | malformedIndex => 779
  | cannotLookAt => 1802
  | cannotDelete => 2570
  | violated constraint _ => constraint.code

/-- What an error says after its code. -/
def detail : SqlError → String
  | noSuchTable name => "no such table: " ++ name
  | senseless detail => detail
  | unknownCollation name => "no such collation sequence: " ++ name
  | unsupportedFormat => "unsupported file format"
  | unknownOption kind value => "no such " ++ kind ++ ": " ++ value
  | foreignAuthority authority => "invalid uri authority: " ++ authority
  | accessNotAllowed mode => "access mode not allowed: " ++ mode
  | readOnly => "attempt to write a readonly database"
  | readOnlyRollback => "attempt to write a readonly database"
  | malformed => "database disk image is malformed"
  | malformedSchema name detail =>
    "malformed database schema (" ++ name ++ ")" ++ if detail = "" then "" else " - " ++ detail
  | malformedIndex => "database disk image is malformed"
  | malformedCounters => "database disk image is malformed"
  | full => "database or disk is full"
  | cannotOpen => "unable to open database file"
  | lockingProtocol => "locking protocol"
  | tooBig => "string or blob too big"
  | violated constraint what => constraint.detail what
  | mismatch => "datatype mismatch"
  | notADatabase => "file is not a database"
  | cannotRead => "disk I/O error"
  | cutOff => "disk I/O error"
  | cannotLookAt => "disk I/O error"
  | cannotDelete => "disk I/O error"

/-- The message of an error. -/
def message (error : SqlError) : String :=
  "error returned from database: (code: " ++ toString error.code ++ ") " ++ error.detail

end SqlError
end AppCatalog
