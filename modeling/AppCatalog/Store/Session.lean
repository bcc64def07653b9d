import AppCatalog.Database.Name
import AppCatalog.Files.Basic
import AppCatalog.Logs.WriteAhead
import AppCatalog.Store.Command

/-!
# Sessions on database files

What a connection does to the file system on behalf of a command. A database file has up to three
companions beside it: a journal, from which a change that was cut off is taken back, a log, to which
changes are written ahead, and the index of the log. A command first settles what is left of them
from before, then reads the database; a change goes through a fresh journal, or through the log once
the session has opened it.

A companion that is an empty file counts as absent. A database file of at most one byte counts as
empty; leftovers beside it belong to an older one and are deleted.
-/

namespace AppCatalog

/-- A database file that a connection has open. -/
structure DatabaseFile where
  place : Place
  use : FileUse
  deriving Repr, DecidableEq

/-- What a connection keeps between commands: whether the log of its file is open, and what it knows
of rows that changed. -/
structure Bearing where
  logOpen : Bool := false
  tally : Tally := {}
  deriving Repr, DecidableEq

/-- What commands act on: a file system, and what the connection keeps. -/
structure Session extends Bearing where
  files : Files

namespace Session

/-- What a command does: it changes the session, whether it succeeds or not. -/
abbrev Act : Type → Type := ExceptT StoreError (StateM Session)

/-- Does something in a session. -/
def Act.runIn {α : Type} (act : Act α) (session : Session) : Except StoreError α × Session :=
  (ExceptT.run act).run session

/-- Refuses a command. -/
def refuse {α : Type} (cause : SqlError) : Act α := throw (.refused cause)

/-- Takes a result, or refuses a command. -/
def take {α : Type} (result : Except SqlError α) : Act α :=
  MonadExcept.ofExcept (result.mapError .refused)

/-- Changes the file system. -/
def change (change : Files → Files) : Act Unit :=
  modify fun session => { session with files := change session.files }

end Session

namespace Files

/-- Whether a place holds more than an empty file. -/
def isOccupied (files : Files) (place : Place) : Bool :=
  match files.at? place with
  | none => false
  | some (.file (.bytes [])) => false
  | some _ => true

/-- Whether a place holds a directory. -/
def isDirectory (files : Files) (place : Place) : Bool :=
  files.at? place = some .directory

/-- Whether a file can be opened or created at a place whose directory exists. -/
def canHold (files : Files) (place : Place) : Bool :=
  !nameTooLong (place.getLast?.getD []) && !files.isDirectory place

/-- The file system in which a place holds a file, an empty one if there was nothing. -/
def ensure (files : Files) (place : Place) : Files :=
  if (files.at? place).isSome then files else files.set place (.file (.bytes []))

end Files

namespace DatabaseFile

/-- The journal of a database file. -/
def journal (file : DatabaseFile) : Place := file.place.beside "-journal"

/-- The log of a database file. -/
def log (file : DatabaseFile) : Place := file.place.beside "-wal"

/-- The index of the log of a database file. -/
def index (file : DatabaseFile) : Place := file.place.beside "-shm"

/-- Whether the index of the log is used and cannot be written. -/
def indexBlocked (file : DatabaseFile) (files : Files) : Bool :=
  file.use.logging = .indexed && files.isDirectory file.index

/-- Whether the file counts as empty. -/
def isEmpty (file : DatabaseFile) (files : Files) : Bool :=
  match files.at? file.place with
  | some (.file (.bytes bytes)) => bytes.length ≤ 1
  | _ => false

/-- The bytes at a place, none if there are no plain ones. -/
def bytesAt (files : Files) (place : Place) : Bytes :=
  match files.at? place with
  | some (.file (.bytes bytes)) => bytes
  | _ => []

/-- The file system with other plain bytes in the database file, if it holds plain bytes. -/
def mapBytes (file : DatabaseFile) (f : Block → Block) (files : Files) : Files :=
  match files.at? file.place with
  | some (.file (.bytes bytes)) =>
    files.set file.place (.file (.bytes (f bytes.toArray).toList))
  | _ => files

/-! ## Settling a journal -/

/-- Whether a journal tells of a change that was cut off: one that starts with a zero byte was
finished. -/
def isHot (files : Files) (journal : Place) : Bool :=
  (bytesAt files journal).head?.any (· != 0)

/-- Whether leftovers may be deleted: the right to write is asked for only where locks are. -/
def mayDelete (file : DatabaseFile) : Bool :=
  file.use.access != .read || file.use.logging = .unsupported

/-- The place of a list of journals, if it is there. -/
def listPlace? (files : Files) (name : Bytes) : Option Place :=
  match files.resolve ⟨name⟩ with
  | .ok (place, some _) => if files.isOccupied place then some place else none
  | _ => none

/-- Whether a journal that is listed goes on to name the list; a directory cannot be read. -/
def namesList (files : Files) (name journal : Bytes) : Except SqlError Bool :=
  match listPlace? files journal with
  | none => .ok false
  | some place =>
    if files.isDirectory place then .error .cannotRead
    else .ok (Journal.listName? (bytesAt files place).toArray = some name)

/-- The file system without a list of journals, unless a journal that it lists goes on to name
it. The list must still be there, and be a file. -/
def dropList (files : Files) (name : Bytes) (list : Place) : Except SqlError Files :=
  match files.at? list with
  | none => .error .cannotOpen
  | some .directory => .error .cannotRead
  | some (.file _) => do
    if ← (Journal.listed (bytesAt files list)).anyM (namesList files name) then return files
    else return files.remove list

/-- Deletes the journal, and then the list that it names if that is there. -/
def dropJournal (file : DatabaseFile) (list? : Option (Bytes × Option Place)) :
    Session.Act Unit := do
  Session.change (·.remove file.journal)
  if let some (name, some list) := list? then
    let files ← Session.take (dropList (← get).files name list)
    Session.change fun _ => files

/-- Takes the change back of which a journal tells, and deletes the journal. A journal whose list is
missing counts for nothing. -/
def rollBack (file : DatabaseFile) : Session.Act Unit := do
  let files := (← get).files
  let journal := (bytesAt files file.journal).toArray
  let list? := (Journal.listName? journal).map fun name => (name, listPlace? files name)
  unless list?.any (·.2 = none) do Session.change (file.mapBytes (Journal.playBack · journal))
  file.dropJournal list?

/-- Settles a journal that was left behind: a change that was cut off is taken back. -/
def settleJournal (file : DatabaseFile) : Session.Act Unit := do
  let files := (← get).files
  if file.use.settles && files.isOccupied file.journal then
    if file.isEmpty files then
      if file.mayDelete && !files.isDirectory file.journal then
        Session.change (·.remove file.journal)
    else if files.isDirectory file.journal then Session.refuse .cannotRead
    else if isHot files file.journal then
      if file.use.access = .read then Session.refuse .readOnlyRollback
      file.rollBack

/-! ## Settling a log -/

/-- Takes over what a log has ahead of the file, and empties the log. -/
def recover (file : DatabaseFile) : Session.Act Unit := do
  let files := (← get).files
  if files.isOccupied file.log && !file.isEmpty files then
    let log := (bytesAt files file.log).toArray
    let data ← Session.take (Log.recover (bytesAt files file.place).toArray log)
    Session.change fun files =>
      (file.mapBytes (fun _ => data) files).set file.log (.file (.bytes []))

/-- Opens the log, which creates it and its index. -/
def openLog (file : DatabaseFile) : Session.Act Unit := do
  let files := (← get).files
  if file.use.logging = .unsupported then Session.refuse .cannotOpen
  unless files.canHold file.log do Session.refuse .cannotOpen
  Session.change (·.ensure file.log)
  if file.use.logging = .indexed then Session.change (·.ensure file.index)
  modify fun session => { session with logOpen := true }

/-- Settles a log that was left behind: it is opened, or deleted if the file is empty. -/
def settleLog (file : DatabaseFile) : Session.Act Unit := do
  let files := (← get).files
  if files.isOccupied file.log then
    if !file.isEmpty files then file.openLog
    else if files.isDirectory file.log then Session.refuse .cannotDelete
    else Session.change (·.remove file.log)

/-- Whether a log has the head of one that somebody wrote. -/
def isWritten (files : Files) (log : Place) : Bool :=
  let bytes := bytesAt files log
  32 ≤ bytes.length && ((bytes.drop 16).take 8).any (· != 0)

/-- Follows an open log. One that was left behind needs its index. -/
def followLog (file : DatabaseFile) : Session.Act Unit := do
  let session ← get
  if session.logOpen then
    if file.indexBlocked session.files && isWritten session.files file.log then
      Session.refuse .lockingProtocol
    file.recover

/-! ## Beginning a command -/

/-- What a command finds in a file. -/
inductive Holding where
  /-- The tables of the catalog, and whether changes are written ahead to a log. -/
  | tables (logs : Bool) (content : Database)
  /-- Pages that somebody else wrote. -/
  | pages (data : Block)

namespace Holding

/-- Whether changes are written ahead to a log. -/
def logs : Holding → Except SqlError Bool
  | tables logs _ => .ok logs
  | pages data => Image.logs data

end Holding

/-- What the file holds. -/
def holding (file : DatabaseFile) (files : Files) : Except SqlError Holding :=
  match files.at? file.place with
  | some (.file (.database logs content)) => .ok (.tables logs content)
  | some (.file (.bytes bytes)) =>
    .ok (if bytes.length ≤ 1 then .tables false .blank else .pages bytes.toArray)
  | _ => .error .cannotOpen

/-- Settles what is left beside the file, unless the log is open, and reads the file. -/
def enter (file : DatabaseFile) : Session.Act Holding := do
  unless file.use.immutable || (← get).logOpen do
    file.settleJournal
    file.settleLog
  file.followLog
  let holding ← Session.take (file.holding (← get).files)
  if (← Session.take holding.logs) && !file.use.immutable && !(← get).logOpen then
    file.openLog
    file.followLog
  return holding

/-! ## Writing -/

/-- Whether a change may begin. -/
def mayWrite (file : DatabaseFile) (session : Session) : Bool :=
  file.use.access != .read && !file.use.immutable &&
    !(session.logOpen && file.indexBlocked session.files)

/-- Why nothing can be written: a change that does not go through the log needs a journal. -/
def obstacle? (file : DatabaseFile) (session : Session) : Option SqlError :=
  if session.logOpen || session.files.canHold file.journal then none else some .cannotOpen

/-- Puts other content in the file. A journal is deleted afterwards. -/
def put (file : DatabaseFile) (content : Content) : Session.Act Unit := do
  let session ← get
  let written := session.files.set file.place (.file content)
  let files := if session.logOpen then written else written.remove file.journal
  set { session with files }

/-- Does what a command says on tables. -/
def performOnTables {α : Type} (file : DatabaseFile) (command : Command α) (logs : Bool)
    (content : Database) : Session.Act α := do
  let session ← get
  let (answer, after) ← Session.take (command.run (file.mayWrite session) content)
  if command.rewrites || after ≠ content then
    if let some cause := file.obstacle? session then Session.refuse cause
    file.put (.database logs after)
  return answer

/-- Does something to pages. -/
def onPages {α : Type} (file : DatabaseFile) (act : Image.Act α) (data : Block) :
    Session.Act α := do
  let session ← get
  let (result, image) := act.runOn
    { data, writable := file.mayWrite session, obstacle? := file.obstacle? session
      tally := session.tally }
  modify fun session => { session with tally := image.tally }
  if image.changed then
    if let some cause := file.obstacle? session then Session.refuse cause
    file.put (.bytes image.data.toList)
  MonadExcept.ofExcept result

/-- Does what a command says. Where the database stays as it is most commands write nothing. -/
def perform {α : Type} (file : DatabaseFile) (command : Command α) : Session.Act α := do
  match ← file.enter with
  | .tables logs content => file.performOnTables command logs content
  | .pages data => file.onPages command.onImage data

/-- Turns to writing ahead to a log, if that is possible and not so yet. -/
def startLogging (file : DatabaseFile) : Session.Act Unit := do
  let holding ← file.enter
  let session ← get
  let isDone := session.logOpen || file.use.immutable || file.use.logging = .unsupported
  match holding with
  | .tables _ content =>
    unless isDone do
      unless file.mayWrite session do Session.refuse .readOnly
      if let some cause := file.obstacle? session then Session.refuse cause
      file.put (.database true content)
  | .pages data =>
    file.onPages (Image.run (if isDone then Image.checkSchema else Image.startLogging)) data

/-- Whether the log can be followed. -/
def canRecover (file : DatabaseFile) (files : Files) : Bool :=
  match Log.head? (bytesAt files file.log).toArray with
  | .ok _ => true
  | .error _ => false

/-- Closes the file: a session that leaves last takes the log with it, if it could write and follow
the log. -/
def close (file : DatabaseFile) (session : Session) : Files :=
  let files := session.files
  if session.logOpen && file.use.access != .read && !file.indexBlocked files &&
      file.canRecover files then
    let files := files.remove file.log
    if file.use.logging = .indexed then files.remove file.index else files
  else files

end DatabaseFile
end AppCatalog
