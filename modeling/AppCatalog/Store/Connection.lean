import AppCatalog.Store.Call
import AppCatalog.Store.Pool
import AppCatalog.Store.Session

/-!
# Connections to a database

A connection reads and writes a database in a file, one in memory that it shares with others of
the same name, or private ones that go away with it. Nothing but the opening looks at names and
paths: an open connection knows the place of its file.

A path is resolved by its text: `..` takes back the name before it, whatever is there.
-/

namespace AppCatalog

namespace Files

/-! ## The place of a database file -/

/-- The number of bytes that the path of a database file does not reach on the way. -/
def databasePathLimit : Nat := 512

/-- The greatest number of bytes of the path of a database file, which leaves room for the
names of its companions. -/
def maxDatabasePath : Nat := databasePathLimit - 8

/-- Whether looking at a place finds something or nothing, but no obstacle. -/
def canLookAt (files : Files) (place : Place) : Bool :=
  match files.walk [] place with
  | .ok _ => true
  | .error error => error = .absent

/-- Follows names from a place by their texts. Every place on the way is looked at. -/
def follow (files : Files) : (here : Place) → List Name → Except SqlError Place
  | here, [] => .ok here
  | here, name :: names =>
    if name = Path.here then follow files here names
    else if name = Path.up then follow files here.dropLast names
    else
      let place := here ++ [name]
      if place.byteCount < databasePathLimit ∧ files.canLookAt place then
        follow files place names
      else .error .cannotOpen

/-- The place of the database file that a path names. -/
def databasePlace (files : Files) (path : Path) : Except SqlError Place := do
  let place ← files.follow [] (files.start path ++ path.names)
  if place ≠ [] ∧ place.byteCount ≤ maxDatabasePath then return place
  else .error .cannotOpen

/-- The file system with a file at a place, an empty one if there was nothing and creating is
allowed. A directory can be opened for reading, but not read. -/
def provide (files : Files) (access : Access) (place : Place) : Except SqlError Files :=
  match files.at? place, files.at? place.dropLast with
  | some (.file _), _ => .ok files
  | some .directory, _ => .error (if access = .read then .cannotRead else .cannotOpen)
  | none, some .directory =>
    if access = .create then .ok (files.set place (.file (.bytes []))) else .error .cannotOpen
  | none, _ => .error .cannotOpen

/-- Opens the database file that a path names, creating it if that is allowed. -/
def openDatabase (files : Files) (path : Path) (use : FileUse) :
    Except SqlError (DatabaseFile × Files) := do
  let place ← files.databasePlace path
  if use.model?.any (!files.pathExists ·) then .error .cannotLookAt
  else return (⟨place, use⟩, ← files.provide use.access place)

end Files

/-! ## Connections -/

/-- What a connection reads and writes. -/
inductive Connection where
  /-- The database in a file, with what is kept between commands. -/
  | file (file : DatabaseFile) (bearing : Bearing)
  /-- A database in memory that all connections to that name share. -/
  | shared (keeper : Keeper) (name : Name) (writable : Bool) (content : Database)
  /-- Private databases. -/
  | pool (pool : Pool)
  deriving Repr, DecidableEq

namespace Connection

/-- Does something with a database file. -/
def onFile {α : Type} (files : Files) (file : DatabaseFile) (bearing : Bearing)
    (act : Session.Act α) : Except StoreError α × Connection × Files :=
  let (result, session) := act.runIn { bearing with files }
  (result, .file file session.toBearing, session.files)

/-- Does something with private databases. -/
def onPool {α : Type} (files : Files) (pool : Pool) (act : Pool.Act α) :
    Except StoreError α × Connection × Files :=
  let (result, pool) := act.runOn pool
  (result.mapError .refused, .pool pool, files)

/-- Does what a command says. -/
def perform {α : Type} (connection : Connection) (files : Files) (command : Command α) :
    Except StoreError α × Connection × Files :=
  match connection with
  | file database bearing => onFile files database bearing (database.perform command)
  | shared keeper name writable content =>
    match command.run writable content with
    | .error cause => (.error (.refused cause), shared keeper name writable content, files)
    | .ok (answer, content) => (.ok answer, shared keeper name writable content, files)
  | pool own => onPool files own (Pool.perform command)

/-- Brings the database to the current schema. On one database the statements of a migration in
a row amount to one command. -/
def migrate (connection : Connection) (files : Files) (now : Int) :
    Except StoreError Unit × Connection × Files :=
  match connection with
  | pool own => onPool files own (Pool.migrate now)
  | connection => connection.perform files (.migrate now)

/-- The file system after a connection is closed. -/
def close (connection : Connection) (files : Files) : Files :=
  match connection with
  | file database bearing => database.close { bearing with files }
  | _ => files

end Connection

namespace Files

/-- Opens a connection to a database file. A missing file is created if that is allowed; it stays
even if logging cannot be started. -/
def connectFile (files : Files) (path : Path) (use : FileUse) (wal : Bool) :
    Except StoreError Connection × Files :=
  match files.openDatabase path use with
  | .error cause => (.error (.refused cause), files)
  | .ok (file, files) =>
    if wal then
      match Connection.onFile files file {} file.startLogging with
      | (.error cause, connection, files) => (.error cause, connection.close files)
      | (.ok (), connection, files) => (.ok connection, files)
    else (.ok (.file file {}), files)

/-- Opens connections to the database of that name, at most `limit` of them, with those
rights. -/
def connect (files : Files) (access : Access) (wal : Bool) (limit : Nat) (name : String) :
    Except StoreError Connection × Files :=
  if name.toList.contains '\x00' then (.error .nulInFileName, files)
  else
    match DatabaseName.ofBytes access (Utf8.encode name) with
    | .error cause => (.error (.refused cause), files)
    | .ok (.transient writable) => (.ok (.pool (.fresh limit writable)), files)
    | .ok (.shared keeper name writable) => (.ok (.shared keeper name writable .blank), files)
    | .ok (.file path use) =>
      files.connectFile path use wal

end Files
end AppCatalog
