import AppCatalog.Images.Writing

/-!
# Database files as bytes

A database file that somebody else wrote is kept as it was found, byte by byte, and statements work
on its pages. Statements run one after another; each keeps its changes on its own, and one that
fails leaves the file as it was.
-/

namespace AppCatalog

/-- A database file as bytes. -/
structure Image where
  data : Block
  /-- Whether it may be changed. -/
  writable : Bool
  /-- Why nothing can be written although it may be. -/
  obstacle? : Option SqlError := none
  /-- Whether it was changed. -/
  changed : Bool := false
  /-- What the connection knows of rows that changed. -/
  tally : Tally := {}

namespace Image

/-- What statements do to a database file: it stays changed whether the last of them succeeds or
not. -/
abbrev Act : Type → Type := ExceptT StoreError (StateM Image)

/-- Does something to a database file. -/
def Act.runOn {α : Type} (act : Act α) (image : Image) : Except StoreError α × Image :=
  (ExceptT.run act).run image

/-- Runs a statement. -/
def run {α : Type} (sketch : Sketch α) : Act α := do
  let image ← get
  match Volume.ofBlock image.data image.writable with
  | .error cause => throw (.refused cause)
  | .ok volume =>
    let outcome := sketch.perform { volume with obstacle? := image.obstacle? } image.tally
    let image := { image with tally := outcome.tally }
    set <| match outcome.after? with
      | some after => { image with data := after.toBlock, changed := true }
      | none => image
    MonadExcept.ofExcept outcome.result

/-- Brings the database to the current schema. -/
def migrate (now : Int) : Act Unit := do
  run Sketch.createMigrations
  unless ← run (Sketch.isRecorded schemaName) do
    run Sketch.createApps
    run Sketch.createIndex
    run (Sketch.record ⟨schemaName, now⟩)

/-! ## Logs -/

/-- The version that tells that changes are written ahead to a log. -/
def logVersion : Nat := 2

/-- Whether changes are written ahead to a log. The start of the file must look like one of a
database. -/
def logs (data : Block) : Except SqlError Bool :=
  let version := data.byte Layout.readVersionAt
  if (data.extract 0 16).toList ≠ Layout.magic ∨ Layout.maxVersion < version then
    .error .notADatabase
  else .ok (version = logVersion)

/-- Only checks that the schema makes sense. -/
def checkSchema : Sketch Unit := fun _ => .ok .none

/-- Turns to writing changes ahead to a log. -/
def startLogging : Sketch Unit := fun _ => .ok <| .defining do
  (do
    Volume.touch 1
    Volume.alter 1 fun bytes =>
      (bytes.setByte Layout.writeVersionAt logVersion).setByte Layout.readVersionAt logVersion
    : Volume.Act Unit)
  return .of ()

end Image
end AppCatalog
