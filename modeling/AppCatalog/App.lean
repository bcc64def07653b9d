import AppCatalog.Form

/-!
# Apps

What an upload supplies, what a store keeps of it, and what a listing shows. The id and the
creation time of a stored app are book-keeping: they come from outside as a stamp, so that
everything else is a function of its inputs.
-/

namespace AppCatalog

/-- The four texts that an upload supplies. Any of them may be empty. -/
structure Upload where
  identifier : String
  name : String
  description : String
  source : String
  deriving Repr, DecidableEq

/-- The book-keeping of one stored app: a fresh id and the time in milliseconds. -/
structure Stamp where
  id : String
  createdAt : Int
  deriving Repr, DecidableEq

/-- A stored app. -/
structure App where
  id : String
  identifier : String
  name : String
  description : String
  source : String
  createdAt : Int
  deriving Repr, DecidableEq

/-- The entry of a stored app in a listing: neither its source nor its book-keeping. -/
structure Summary where
  identifier : String
  name : String
  description : String
  deriving Repr, DecidableEq

/-- The app that an upload becomes under a stamp. -/
def Upload.stamped (upload : Upload) (stamp : Stamp) : App where
  id := stamp.id
  identifier := upload.identifier
  name := upload.name
  description := upload.description
  source := upload.source
  createdAt := stamp.createdAt

/-- The texts that were uploaded. -/
def App.upload (app : App) : Upload where
  identifier := app.identifier
  name := app.name
  description := app.description
  source := app.source

/-- What a listing shows of an app. -/
def App.summary (app : App) : Summary where
  identifier := app.identifier
  name := app.name
  description := app.description

/-- The upload that form parameters describe; a field without a parameter is empty. -/
def Params.upload (params : Params) : Upload where
  identifier := params.getOrEmpty "identifier"
  name := params.getOrEmpty "name"
  description := params.getOrEmpty "description"
  source := params.getOrEmpty "source"

end AppCatalog
