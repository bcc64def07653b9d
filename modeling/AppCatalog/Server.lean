import AppCatalog.Http.Router
import AppCatalog.Http.Wire
import AppCatalog.Settings.Loading
import AppCatalog.Store.Opening
import AppCatalog.Text.Uuid

/-!
# The server

From a directory to a running server, and from what a connection carries to what is sent back.
A server starts if its settings load and the store that they choose opens; otherwise it answers
nothing, reports the reason and exits.
-/

namespace AppCatalog

/-- The stamp with the free bits of a number and a time. -/
def Stamp.ofBits (bits : Nat) (now : Int) : Stamp :=
  ⟨Uuid.text bits, now⟩

/-- Answers a request from a catalog. -/
def Catalog.answer (catalog : Catalog) (supply : Supply) (request : Request) :
    Response × Catalog :=
  (Router.answer request).run (backend supply) catalog

/-- Why a server does not start. -/
inductive StartError where
  | settings (cause : LoadError)
  | store (cause : OpenError)
  /-- The address to listen on cannot be looked up. -/
  | address (cause : FileError)
  deriving Repr, DecidableEq

/-- The message of an error. -/
def StartError.message : StartError → String
  | settings cause => cause.message
  | store cause => cause.message
  | address cause => cause.message

/-- What is reported of an error when the server gives up. -/
def StartError.report (error : StartError) : String :=
  "Error: " ++ error.message

/-- A running server. -/
structure Server where
  settings : Settings
  catalog : Catalog

namespace Server

/-- Starts a server. The files may have changed even if it does not start. An address with a zero
byte cannot be looked up; with any other one the server is taken to be listening. -/
def start (files : Files) (now : Int) : Except StartError Server × Files :=
  match Settings.loadDefault files with
  | .error cause => (.error (.settings cause), files)
  | .ok settings =>
    match files.openStore now settings.database with
    | (.error cause, files) => (.error (.store cause), files)
    | (.ok store, files) =>
      let catalog : Catalog := { files, store }
      if settings.server.bindAddress.toList.contains '\x00' then
        (.error (.address .nulByte), catalog.close)
      else (.ok { settings, catalog }, files)

/-- Answers the request that a connection carries; what is no request gets an empty answer. -/
def exchange (server : Server) (supply : Supply) (connection : Bytes) : Response × Server :=
  match Wire.readRequest connection with
  | .error status => ((Response.sized { status }).closing, server)
  | .ok (request, _) =>
    let (response, catalog) := server.catalog.answer supply request
    (response.closing, { server with catalog })

/-- Answers connections one after another. -/
def exchangeAll (server : Server) (supply : Supply) : List Bytes → List Response × Server
  | [] => ([], server)
  | connection :: connections =>
    let (response, server) := server.exchange supply connection
    let (responses, server) := exchangeAll server supply connections
    (response :: responses, server)

/-- What a run of a server comes to. -/
structure Run where
  /-- The number with which it exits. -/
  exitCode : Nat
  /-- What it reports, if it does not start. -/
  report : Option String
  /-- The responses to the connections, in their order. -/
  responses : List Response
  /-- The files that are left. -/
  files : Files

/-- Starts a server, answers connections one after another, and stops. -/
def run (files : Files) (now : Int) (supply : Supply) (connections : List Bytes) : Run :=
  match start files now with
  | (.error error, files) => { exitCode := 1, report := some error.report, responses := [], files }
  | (.ok server, _) =>
    let (responses, server) := server.exchangeAll supply connections
    { exitCode := 0, report := none, responses, files := server.catalog.close }

end Server
end AppCatalog
