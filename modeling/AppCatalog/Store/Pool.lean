import AppCatalog.Store.Command

/-!
# Pools of private databases

A pool hands out connections one statement at a time. Where each connection has a database of its
own, a statement sees only what earlier ones did through the same connection: it gets the one that
has been idle for longest, and a new one with a blank database if none is idle and the limit
allows it. A connection that served the last statement is not idle yet, so two statements in a
row share a connection only if it is the only one.
-/

namespace AppCatalog

/-- The private databases of a pool. -/
structure Pool where
  /-- The greatest number of connections. -/
  limit : Nat
  /-- Whether the databases may be changed. -/
  writable : Bool
  /-- The databases of the idle connections, that of the longest idle one first. -/
  idle : List Database
  /-- The database of the connection that served the last statement. -/
  last? : Option Database
  deriving Repr, DecidableEq

namespace Pool

/-- What statements do with a pool: it stays changed whether they succeed or not. -/
abbrev Act : Type → Type := ExceptT SqlError (StateM Pool)

/-- Does something with a pool. -/
def Act.runOn {α : Type} (act : Act α) (pool : Pool) : Except SqlError α × Pool :=
  (ExceptT.run act).run pool

/-- A pool with one idle connection. -/
def fresh (limit : Nat) (writable : Bool) : Pool :=
  { limit, writable, idle := [.blank], last? := none }

/-- The database of the connection that serves the next statement, and those that are idle
then. -/
def next (pool : Pool) : Database × List Database :=
  match pool.idle, pool.last? with
  | db :: idle, last? => (db, idle ++ last?.toList)
  | [], none => (.blank, [])
  | [], some db => if 1 < pool.limit then (.blank, [db]) else (db, [])

/-- Does what a command says. One that fails leaves the database as it was. -/
def perform {α : Type} (command : Command α) : Act α := do
  let pool ← get
  let (db, idle) := pool.next
  match command.run pool.writable db with
  | .error cause =>
    set { pool with idle, last? := some db }
    throw cause
  | .ok (answer, after) =>
    set { pool with idle, last? := some after }
    return answer

/-- Brings the databases to the current schema, each statement on the connection that it gets. -/
def migrate (now : Int) : Act Unit := do
  perform (.ensure [.createMigrations])
  unless ← perform .checkMigrated do
    perform (.ensure [.createApps, .createIndex])
    perform (.record ⟨schemaName, now⟩)

end Pool
end AppCatalog
