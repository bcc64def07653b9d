import AppCatalog.Store.Call

/-!
# The service

What the program does with a store, whichever it is: list the apps, get a source, take an
upload. Nothing is checked: texts may be empty and identifiers may repeat. The empty identifier
is never looked up.
-/

namespace AppCatalog.Service

/-- All apps without their sources. -/
def listApps : Plan (Except StoreError (List Summary)) :=
  .ask .listAll .done

/-- The source of the first app with that identifier, if there is one. The empty identifier
finds nothing and asks nothing. -/
def getSource (identifier : String) : Plan (Except StoreError (Option String)) :=
  if identifier = "" then .done (.ok none)
  else .ask (.find identifier) fun answer => .done (answer.map (Option.map App.source))

/-- Stores an upload. -/
def uploadApp (upload : Upload) : Plan (Except StoreError App) :=
  .ask (.insert upload) .done

/-- How a service shows itself in a log: its store is not shown. -/
def shown : String :=
  "AppService \x7b .. \x7d"

end AppCatalog.Service
