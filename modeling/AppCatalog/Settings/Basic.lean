import AppCatalog.Toml.Writer

/-!
# Settings

What a settings file may choose, the built-in choices, and the document that states them.
-/

namespace AppCatalog

/-- Where the server listens. -/
structure ServerSettings where
  /-- The address to listen on; every address of the machine by default. -/
  bindAddress : String := "0.0.0.0"
  port : UInt16 := 3000
  deriving Repr, DecidableEq

/-- Where apps are kept. -/
structure DatabaseSettings where
  /-- The kind of store, `sqlite` or `memory`; any other text is refused when it is opened. -/
  backend : String := "sqlite"
  /-- The database file. -/
  path : String := "./byteshop.db"
  maxConnections : UInt32 := 5
  /-- Whether the database writes ahead to a log. -/
  enableWal : Bool := true
  deriving Repr, DecidableEq

/-- All settings. -/
structure Settings where
  server : ServerSettings := {}
  database : DatabaseSettings := {}
  deriving Repr, DecidableEq

namespace Settings

/-- The built-in settings. -/
def builtIn : Settings := {}

/-- The address and the port to listen on. -/
def bindAddr (settings : Settings) : String :=
  settings.server.bindAddress ++ ":" ++ toString settings.server.port.toNat

open Toml in
/-- The document that states every setting. -/
def document (settings : Settings) : String :=
  String.ofList <|
    writtenHeader "server"
      ++ writtenLine "bind_address" (writtenText settings.server.bindAddress)
      ++ writtenLine "port" (writtenNat settings.server.port.toNat)
      ++ '\n' :: writtenHeader "database"
      ++ writtenLine "backend" (writtenText settings.database.backend)
      ++ writtenLine "path" (writtenText settings.database.path)
      ++ writtenLine "max_connections" (writtenNat settings.database.maxConnections.toNat)
      ++ writtenLine "enable_wal" (writtenBool settings.database.enableWal)

/-- The document that states the built-in settings. -/
def exampleDocument : String :=
  builtIn.document

end Settings
end AppCatalog
