import AppCatalog.Json.Function
import AppCatalog.Pages.Cursor
import AppCatalog.Schema.Expression

/-!
# Running statements

What is done while a statement runs: pages are read and changed, references that lead nowhere are
counted, and so are rows that change. What a selection answers that depends on nothing around it is
kept, so that it is asked only once.
-/

namespace AppCatalog

/-- Why an evaluation does not come to an end. -/
inductive Interruption where
  | failed (cause : SqlError)
  /-- The statement fails, but what it did before that is kept. -/
  | stopped (cause : SqlError)
  /-- A trigger asks that what it was fired for is not done. -/
  | skipped
  deriving Repr, DecidableEq

/-- How many references between rows lead nowhere so far. -/
structure Loose where
  /-- Those that must lead somewhere when the statement ends. -/
  now : Int := 0
  /-- Those that must lead somewhere when its changes are kept. -/
  late : Int := 0

/-- What a connection can be asked about rows that changed. -/
structure Tally where
  /-- How many rows the running statement changed so far. -/
  current : Nat := 0
  /-- How many the last one changed. -/
  last : Nat := 0
  /-- How many were changed by all of them. -/
  total : Nat := 0
  /-- The number of the row that was inserted last. -/
  rowid : Int := 0
  deriving Repr, DecidableEq

namespace Tally

/-- What is known when a statement ends. -/
def ended (tally : Tally) : Tally :=
  { tally with current := 0, last := tally.current, total := tally.total + tally.current }

end Tally

/-- How far a statement is. -/
structure Progress where
  volume : Volume
  loose : Loose := {}
  tally : Tally := {}
  /-- The rows of selections that depend on nothing around them, by number. -/
  answers : List (Nat × List (List Marked)) := []

/-- What is done while expressions are evaluated. -/
abbrev Run : Type → Type := ExceptT Interruption (StateM Progress)

namespace Run

/-- Does something on a volume. -/
def act {α : Type} (act : Volume.Act α) : Run α :=
  ExceptT.mk <| modifyGet fun progress =>
    let (result, volume) := act.runOn progress.volume
    (result.mapError .failed, { progress with volume })

instance : MonadLift Volume.Act Run := ⟨act⟩

/-- Fails. -/
def fail {α : Type} (cause : SqlError) : Run α := throw (.failed cause)

/-- Fails because of a constraint, in the way that is asked for. -/
def violate {α : Type} (action : OnConflict) (constraint : Constraint) (what : String) : Run α :=
  match action with
  | .fail => throw (.stopped (.violated constraint what))
  | _ => fail (.violated constraint what)

/-- Takes a result, or fails. -/
def ofExcept {α : Type} (result : Except SqlError α) : Run α :=
  MonadExcept.ofExcept (result.mapError .failed)

/-- Changes what is known of rows that changed. -/
def tally (f : Tally → Tally) : Run Unit :=
  modifyThe Progress fun progress => { progress with tally := f progress.tally }

/-- Does something for which no selection was asked yet; what they answer then is forgotten
behind it. -/
def afresh {α : Type} (act : Run α) : Run α := do
  let before := (← getThe Progress).answers
  modifyThe Progress fun progress => { progress with answers := [] }
  let result ← tryCatch (do return Except.ok (← act)) fun cause => return Except.error cause
  modifyThe Progress fun progress => { progress with answers := before }
  MonadExcept.ofExcept result

end Run
end AppCatalog
