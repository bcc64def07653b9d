import AppCatalog.Changes.Creation
import AppCatalog.Changes.Editing
import AppCatalog.Images.Row

/-!
# Work on database files

A statement is checked against the schema of a file before it does anything, then asks for the
right to write if it needs it, then runs. Its changes are kept together at the end, or none of them
is; and they are not kept while references lead nowhere. Whoever waits only for the first row is
answered before that, and not told if the changes cannot be kept.
-/

namespace AppCatalog

/-- What a statement answers. -/
structure Reply (α : Type) where
  result : Except StoreError α
  /-- Whether the answer is there before the changes are kept. -/
  isEarly : Bool := false

namespace Reply

/-- The answer of a statement that only reads. -/
def of {α : Type} (result : α) : Reply α := { result := .ok result }

end Reply

/-- What a statement that makes sense does. -/
structure Work (α : Type) where
  /-- Whether it asks for the right to write. -/
  writes : Bool
  /-- Whether it counts the rows that it changes. -/
  counts : Bool := false
  run : Run (Reply α)

/-- A statement, which makes sense on databases with some schemas. -/
abbrev Sketch (α : Type) : Type := Schema → Except SqlError (Work α)

namespace Work

/-- Work that only reads. -/
def reading {α : Type} (run : Run (Reply α)) : Work α := { writes := false, run }

/-- Work that changes definitions. -/
def defining {α : Type} (run : Run (Reply α)) : Work α := { writes := true, run }

/-- Work that changes rows. -/
def changing {α : Type} (run : Run (Reply α)) : Work α := { writes := true, counts := true, run }

/-- Nothing to do. -/
def none : Work Unit := reading (return .of ())

/-- Does the work. Where it fails and keeps what it did before that, it answers so; a row that is to
be left alone counts for nothing here. -/
def start {α : Type} (work : Work α) (volume : Volume) (tally : Tally) :
    Except SqlError (Reply α) × Progress :=
  let (result, progress) := (ExceptT.run work.run).run { volume, tally }
  match result with
  | .ok reply => (.ok reply, progress)
  | .error (.stopped cause) => (.ok { result := .error (.refused cause) }, progress)
  | .error (.failed cause) => (.error cause, progress)
  | .error .skipped => (.error .malformed, progress)

/-- What is known of rows that changed when the work is done: nothing changed if it is taken
back. -/
def tallied {α : Type} (work : Work α) (tally : Tally) (isKept : Bool) : Tally :=
  if !work.counts then tally
  else if isKept then tally.ended
  else { tally with current := 0 }.ended

end Work

/-- What becomes of a statement: what it answers, the file that it leaves, if that is not as it was,
and what is known then of rows that changed. -/
structure Outcome (α : Type) where
  result : Except StoreError α
  after? : Option Volume := none
  tally : Tally

namespace Sketch

/-- Checks that no more references lead nowhere than before. -/
def checkLoose (count : Int) : Except SqlError Unit :=
  if 0 < count then .error (.violated .foreignKey "") else .ok ()

/-- The work that a statement is, once it may be begun. -/
def begin {α : Type} (sketch : Sketch α) : Volume.Act (Work α) := do
  let work ← MonadExcept.ofExcept (sketch (← Schema.load))
  if work.writes then Volume.startWriting
  return work

/-- Keeps changes, if no reference leads nowhere. -/
def keep (loose : Loose) : Volume.Act Unit := do
  MonadExcept.ofExcept (checkLoose loose.late)
  Volume.finish

/-- Does what a statement says. -/
def perform {α : Type} (sketch : Sketch α) (volume : Volume) (tally : Tally) : Outcome α :=
  match (begin sketch).runOn volume with
  | (.error cause, _) => { result := .error (.refused cause), tally }
  | (.ok work, volume) =>
    let (result, progress) := work.start volume tally
    let kept := work.tallied progress.tally true
    let lost := work.tallied progress.tally false
    match result, result.bind fun _ => checkLoose progress.loose.now with
    | .ok reply, .ok () =>
      if !work.writes then { result := reply.result, tally := kept }
      else
        match (keep progress.loose).runOn progress.volume with
        | (.error cause, _) =>
          { result := if reply.isEarly then reply.result else .error (.refused cause)
            tally := lost }
        | (.ok (), volume) =>
          { result := reply.result, after? := if volume.written then some volume else none
            tally := kept }
    | .ok _, .error cause => { result := .error (.refused cause), tally := lost }
    | .error cause, _ => { result := .error (.refused cause), tally := lost }

end Sketch
end AppCatalog
