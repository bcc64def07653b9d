import AppCatalog.Store.Connection

/-!
# Stores

A store keeps apps in memory or in a database, or is closed for good. A catalog is a store with
the files that it may write to; it answers calls, and for a store over a database also counts,
migrates and is edited from outside.

Ids and times come from a supply of stamps: every insertion takes the next one.
-/

namespace AppCatalog

/-- Where apps are kept. -/
inductive Store where
  /-- In memory, in the order in which they were stored. -/
  | memory (apps : List App)
  /-- In a database. -/
  | sql (connection : Connection)
  /-- Nowhere: every call fails. -/
  | closed
  deriving Repr, DecidableEq

/-- The stamps that are given out, by number. -/
abbrev Supply : Type := Nat → Stamp

/-- A store and the files that it may write to. -/
structure Catalog where
  files : Files
  store : Store
  /-- How many stamps were given out. -/
  issued : Nat := 0

namespace Catalog

/-- Does what a command says over a connection. -/
def perform {α : Type} (catalog : Catalog) (connection : Connection) (command : Command α) :
    Except StoreError α × Catalog :=
  let (result, connection, files) := connection.perform catalog.files command
  (result, { catalog with files, store := .sql connection })

/-! ## Calls -/

/-- All apps without their sources, in the order of the store. -/
def listAll (catalog : Catalog) : Except StoreError (List Summary) × Catalog :=
  match catalog.store with
  | .memory apps => (.ok (apps.map App.summary), catalog)
  | .sql connection => catalog.perform connection .listing
  | .closed => (.error .poolClosed, catalog)

/-- The first app in the order of the store with exactly that identifier. -/
def find (catalog : Catalog) (identifier : String) : Except StoreError (Option App) × Catalog :=
  match catalog.store with
  | .memory apps => (.ok (apps.find? (·.identifier = identifier)), catalog)
  | .sql connection => catalog.perform connection (.find identifier)
  | .closed => (.error .poolClosed, catalog)

/-- Stores an upload under the next stamp. -/
def insert (catalog : Catalog) (supply : Supply) (upload : Upload) :
    Except StoreError App × Catalog :=
  let app := upload.stamped (supply catalog.issued)
  let issued := catalog.issued + 1
  match catalog.store with
  | .memory apps => (.ok app, { catalog with store := .memory (apps ++ [app]), issued })
  | .sql connection =>
    { catalog with issued }.perform connection (.insert app)
  | .closed => (.error .poolClosed, { catalog with issued })

/-- The answers of a catalog. -/
def backend (supply : Supply) : Backend Catalog
  | catalog, .listAll => catalog.listAll
  | catalog, .find identifier => catalog.find identifier
  | catalog, .insert upload => catalog.insert supply upload

/-! ## A store over a database -/

/-- The number of apps; none if the store is not over a database. -/
def count? (catalog : Catalog) : Option (Except StoreError Nat × Catalog) :=
  match catalog.store with
  | .sql connection => some (catalog.perform connection .count)
  | _ => none

/-- Brings the database to the current schema; none if the store is not over a database. -/
def migrate? (catalog : Catalog) (now : Int) : Option (Except StoreError Unit × Catalog) :=
  match catalog.store with
  | .sql connection =>
    let (result, connection, files) := connection.migrate catalog.files now
    some (result, { catalog with files, store := .sql connection })
  | _ => none

/-- The file system after the store is closed. -/
def close (catalog : Catalog) : Files :=
  match catalog.store with
  | .sql connection => connection.close catalog.files
  | _ => catalog.files

/-! ## Edits from outside -/

/-- Another connection as it finds the store: a database in memory is the one of the store if
both have the same name. -/
def joinedBy (catalog : Catalog) (connection : Connection) : Connection :=
  match connection, catalog.store with
  | .shared keeper name writable content, .sql (.shared keeper' name' _ kept) =>
    .shared keeper name writable (if keeper = keeper' ∧ name = name' then kept else content)
  | connection, _ => connection

/-- The catalog after another connection is closed. What it did to a database in memory that the
store shares stays, and so does a log that the store has open as well. -/
def leftBy (catalog : Catalog) (connection : Connection) : Catalog :=
  match connection, catalog.store with
  | .shared keeper name _ content, .sql (.shared keeper' name' writable kept) =>
    let content := if keeper = keeper' ∧ name = name' then content else kept
    { catalog with store := .sql (.shared keeper' name' writable content) }
  | .file edited bearing, .sql (.file kept { logOpen := true, .. }) =>
    if edited.place = kept.place then catalog
    else { catalog with files := (Connection.file edited bearing).close catalog.files }
  | connection, _ => { catalog with files := connection.close catalog.files }

/-- Another program opens the database of that name, edits it and closes it again. -/
def edit (catalog : Catalog) (name : String) (edit : Edit) : Except StoreError Unit × Catalog :=
  match catalog.files.connect .write false 1 name with
  | (.error error, files) => (.error error, { catalog with files })
  | (.ok connection, files) =>
    let (result, connection, files) := (catalog.joinedBy connection).perform files (.edit edit)
    (result, leftBy { catalog with files } connection)

end Catalog
end AppCatalog
