import AppCatalog.Calendar.Function
import AppCatalog.Query.Function
import AppCatalog.Query.Run
import AppCatalog.Schema.Function

/-!
# Calling functions

What a function makes of its arguments, whatever it is about: values, texts, moments, structured
values, or the connection that calls it. Where an expression belongs to a table, a function must not
ask for the present.
-/

namespace AppCatalog

/-- What an expression of a table is part of. -/
inductive Belonging where
  | check
  | generated
  | index
  deriving Repr, DecidableEq

namespace Belonging

/-- What an expression is part of, in words. -/
def title : Belonging → String
  | check => "a CHECK constraint"
  | generated => "a generated column"
  | index => "an index"

end Belonging

namespace Value

/-! ## Texts -/

/-- The code of the sound of a letter; letters that do not sound have none. -/
def soundOf (byte : UInt8) : Nat :=
  let codes := [0, 1, 2, 3, 0, 1, 2, 0, 0, 2, 2, 4, 5, 5, 0, 1, 2, 6, 2, 3, 0, 1, 0, 2, 0, 2]
  let small := lowerByte (byte.toNat % 128).toUInt8
  if 97 ≤ small ∧ small ≤ 122 then codes.getD (small.toNat - 97) 0 else 0

/-- The codes of at most so many sounds; a sound is not told twice in a row. -/
def sounds : (count previous : Nat) → Bytes → Bytes
  | 0, _, _ => []
  | count + 1, _, [] => List.replicate (count + 1) 48
  | count + 1, previous, byte :: rest =>
    let code := soundOf byte
    if code = 0 then sounds (count + 1) 0 rest
    else if code = previous then sounds (count + 1) previous rest
    else (48 + code).toUInt8 :: sounds count code rest

/-- How a text sounds. -/
def soundex (encoding : Encoding) (value : Value) : Value :=
  let isLetter (byte : UInt8) : Bool := let small := lowerByte byte; 97 ≤ small && small ≤ 122
  match (untilZero (value.bytesOf encoding)).dropWhile (!isLetter ·) with
  | [] => ofString encoding "?000"
  | first :: rest =>
    ofBytes encoding (upperByte first :: sounds 3 (soundOf first) rest)

/-- The bytes that digits write, two for each, with other characters between them. -/
def bytesOfHex (others : List Bytes) : (rounds : Nat) → Bytes → Option Bytes
  | 0, _ => none
  | _, [] => some []
  | rounds + 1, byte :: rest =>
    let isDigit (byte : UInt8) : Bool := JsonTree.isHexDigit byte.toNat
    if isDigit byte then
      match rest with
      | second :: rest =>
        if isDigit second then
          (bytesOfHex others rounds rest).map
            ((JsonTree.hexValue [byte, second]).toUInt8 :: ·)
        else none
      | [] => none
    else
      let character := (characters (byte :: rest)).headD [byte]
      if others.contains character then
        bytesOfHex others rounds ((byte :: rest).drop character.length)
      else none

/-- The bytes that a text of digits writes. -/
def unhex (encoding : Encoding) (value : Value) (others? : Option Value) : Value :=
  if value.isNull || others?.any isNull then null
  else
    let bytes := untilZero (value.bytesOf encoding)
    let others := characters ((others?.map (bytesOf encoding)).getD [])
    match bytesOfHex others (bytes.length + 1) bytes with
    | some bytes => blob bytes.toArray
    | none => null

/-! ## The database -/

/-- The version of the database. -/
def version : String := "3.46.0"

/-- The state of the database. -/
def sourceId : String :=
  "2024-05-23 13:25:27 96c92aba00c8375bc32fafcdf12429c58bd8aabfcadab6683e35bbb9cdebf19e"

/-- What the database was made with. -/
def options : List String :=
  ["ATOMIC_INTRINSICS=1", "COMPILER=gcc", "DEFAULT_AUTOVACUUM", "DEFAULT_CACHE_SIZE=-2000",
    "DEFAULT_FILE_FORMAT=4", "DEFAULT_FOREIGN_KEYS", "DEFAULT_JOURNAL_SIZE_LIMIT=-1",
    "DEFAULT_MMAP_SIZE=0", "DEFAULT_PAGE_SIZE=4096", "DEFAULT_PCACHE_INITSZ=20",
    "DEFAULT_RECURSIVE_TRIGGERS", "DEFAULT_SECTOR_SIZE=4096", "DEFAULT_SYNCHRONOUS=2",
    "DEFAULT_WAL_AUTOCHECKPOINT=1000", "DEFAULT_WAL_SYNCHRONOUS=2", "DEFAULT_WORKER_THREADS=0",
    "DIRECT_OVERFLOW_READ", "ENABLE_API_ARMOR", "ENABLE_COLUMN_METADATA",
    "ENABLE_DBSTAT_VTAB", "ENABLE_FTS3", "ENABLE_FTS3_PARENTHESIS", "ENABLE_FTS5",
    "ENABLE_LOAD_EXTENSION", "ENABLE_MEMORY_MANAGEMENT", "ENABLE_RTREE", "ENABLE_STAT4",
    "MALLOC_SOFT_LIMIT=1024", "MAX_ATTACHED=10", "MAX_COLUMN=2000",
    "MAX_COMPOUND_SELECT=500", "MAX_DEFAULT_PAGE_SIZE=8192", "MAX_EXPR_DEPTH=1000",
    "MAX_FUNCTION_ARG=127", "MAX_LENGTH=1000000000", "MAX_LIKE_PATTERN_LENGTH=50000",
    "MAX_MMAP_SIZE=0x7fff0000", "MAX_PAGE_COUNT=0xfffffffe", "MAX_PAGE_SIZE=65536",
    "MAX_SQL_LENGTH=1000000000", "MAX_TRIGGER_DEPTH=1000", "MAX_VARIABLE_NUMBER=32766",
    "MAX_VDBE_OP=250000000", "MAX_WORKER_THREADS=8", "MUTEX_PTHREADS", "SOUNDEX",
    "SYSTEM_MALLOC", "TEMP_STORE=1", "THREADSAFE=1", "USE_URI"]

/-- Whether the database was made with something. -/
def hasOption (name : String) : Bool :=
  let name := name.toLower
  let name := if name.startsWith "sqlite_" then (name.drop 7).toString else name
  options.any fun option =>
    let option := option.toLower
    option = name || (option.splitOn "=").head? = some name

/-- Whether plain zeros are too many for a value. -/
def zeros (encoding : Encoding) (count : Value) : Except SqlError Value :=
  let count := (count.toInteger encoding).toNat
  if 1000000000 < count then .error .tooBig else .ok (blob (Block.zeros count))

/-- What a function about the connection gives. -/
def ofConnection? (encoding : Encoding) (tally : Tally) (name : String) (arguments : List Value) :
    Option Value :=
  match name, arguments with
  | "last_insert_rowid", [] => some (integer tally.rowid)
  | "changes", [] => some (integer tally.last)
  | "total_changes", [] => some (integer tally.total)
  | "sqlite_version", [] => some (ofString encoding version)
  | "sqlite_source_id", [] => some (ofString encoding sourceId)
  | "sqlite_compileoption_get", [n] =>
    some (match options[(n.toInteger encoding).toNat]? with
      | some option => if n.toInteger encoding < 0 then null else ofString encoding option
      | none => null)
  | "sqlite_compileoption_used", [name] =>
    if name.isNull then some null
    else
      let name := Utf8.decodeLossy (untilZero (name.bytesOf encoding))
      some (integer (if hasOption name then 1 else 0))
  | "sqlite_log", [_, _] => some null
  | "random", [] => some (integer 0)
  | "randomblob", [n] => some (blob (Block.zeros (max 1 (n.toInteger encoding)).toNat))
  | _, _ => none

end Value

namespace Marked

/-- The number that tells of a structured value. -/
def jsonCode : Int := 74

/-- What a function makes of its arguments. The order of texts is that of the first argument that
has one. -/
def call (encoding : Encoding) (belonging? : Option Belonging) (tally : Tally)
    (collation : Collation) (name : String) (arguments : List Marked) :
    Except SqlError Marked := do
  let values := arguments.map (·.value)
  match name, arguments with
  | "likely", [a] => return a
  | "unlikely", [a] => return a
  | "likelihood", [a, _] => return a
  | "ifnull", [a, b] => return if a.value.isNull then b else a
  | "coalesce", _ => return (arguments.find? (!·.value.isNull)).getD ⟨.null, false⟩
  | "subtype", [a] => return { value := .integer (if a.isJson then jsonCode else 0) }
  | "soundex", [a] => return { value := a.value.soundex encoding }
  | "unhex", a :: others =>
    return { value := a.value.unhex encoding (others.head?.map (·.value)) }
  | "zeroblob", [a] => return { value := ← Value.zeros encoding a.value }
  | "printf", [] => return { value := .null }
  | "format", [] => return { value := .null }
  | "printf", form :: rest =>
    return { value := Value.formatted encoding form.value (rest.map (·.value)) }
  | "format", form :: rest =>
    return { value := Value.formatted encoding form.value (rest.map (·.value)) }
  | _, _ =>
    if let some result := JsonTree.call? encoding name arguments then return ← result
    match Moment.call? encoding belonging?.isSome name values with
    | some (.ok value) => return { value }
    | some (.error .senseless) => return { value := .null }
    | some (.error .impure) =>
      let title := (belonging?.map Belonging.title).getD ""
      throw (.senseless ("non-deterministic use of " ++ name ++ "() in " ++ title))
    | none =>
      if let some value := Value.ofConnection? encoding tally name values then
        return { value }
      match Value.call? encoding collation name values with
      | some result => return { value := ← result }
      | none =>
        if (FunctionRule.named name).any (·.kind = .reserved) then
          let title := if name = "match" then "MATCH" else name
          throw (.senseless ("unable to use function " ++ title ++ " in the requested context"))
        else return { value := .null }

end Marked
end AppCatalog
