import AppCatalog.Settings.Basic
import AppCatalog.Store.Basic

/-!
# Opening a store

From settings to a store. A store over a database is opened in four steps, each of which may
fail: the directories above the file are made, a connection is opened, the database is migrated,
and the apps are counted, so that a store that opens can also answer. If a step fails after the
connection is open, it is closed again.
-/

namespace AppCatalog

/-- Why a store cannot be opened. -/
inductive OpenError where
  | unknownBackend (name : String)
  /-- The directories above the file cannot be made. -/
  | directories (cause : FileError)
  | store (cause : StoreError)
  deriving Repr, DecidableEq

/-- The message of an error. -/
def OpenError.message : OpenError → String
  | unknownBackend name =>
    "Invalid database backend: " ++ name ++ ". Must be 'sqlite' or 'memory'"
  | directories cause => cause.message
  | store cause => cause.message

namespace Files

/-- Makes the directories above the file that a path names. -/
def makeParents (files : Files) (path : Path) : Except FileError Unit × Files :=
  match path.parent? with
  | none => (.ok (), files)
  | some parent => files.makeDirectories parent

/-- Migrates a fresh connection and counts its apps. -/
def prepare (files : Files) (now : Int) (connection : Connection) :
    Except StoreError Unit × Connection × Files :=
  match connection.migrate files now with
  | (.error cause, connection, files) => (.error cause, connection, files)
  | (.ok (), connection, files) =>
    let (result, connection, files) := connection.perform files .count
    (result.map fun _ => (), connection, files)

/-- Opens a store over the database that the settings name. -/
def openSql (files : Files) (now : Int) (settings : DatabaseSettings) :
    Except OpenError Store × Files :=
  match files.makeParents (.ofText settings.path) with
  | (.error cause, files) => (.error (.directories cause), files)
  | (.ok (), files) =>
    let limit := settings.maxConnections.toNat
    match files.connect .create settings.enableWal limit settings.path with
    | (.error cause, files) => (.error (.store cause), files)
    | (.ok connection, files) =>
      match files.prepare now connection with
      | (.error cause, connection, files) =>
        (.error (.store cause), connection.close files)
      | (.ok (), connection, files) => (.ok (.sql connection), files)

/-- Opens the store that settings choose. -/
def openStore (files : Files) (now : Int) (settings : DatabaseSettings) :
    Except OpenError Store × Files :=
  if settings.backend = "sqlite" then files.openSql now settings
  else if settings.backend = "memory" then (.ok (.memory []), files)
  else (.error (.unknownBackend settings.backend), files)

end Files
end AppCatalog
