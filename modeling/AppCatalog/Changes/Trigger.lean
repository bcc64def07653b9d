import AppCatalog.Changes.Counter
import AppCatalog.Changes.Parent

/-!
# Triggers

What happens to a row, and which triggers wait for it. A trigger can speak of the row as it was and
as it will be, as far as there is one.
-/

namespace AppCatalog

namespace Trigger

/-- Whether a trigger waits for an event. -/
def awaits (trigger : Trigger) (time : TriggerTime) (event : TriggerEvent) : Bool :=
  trigger.time = time &&
  match trigger.event, event with
  | .insert, .insert => true
  | .delete, .delete => true
  | .update wanted, .update changed =>
    wanted.isEmpty || wanted.any fun name => changed.any (Table.sameName name)
  | _, _ => false

end Trigger

namespace Table

/-- Whether a trigger of a table waits for an event. -/
def hasTrigger (table : Table) (time : TriggerTime) (event : TriggerEvent) : Bool :=
  table.triggers.any (·.awaits time event)

/-- Whether a trigger of a table waits for an event at any time. -/
def hasAnyTrigger (table : Table) (event : TriggerEvent) : Bool :=
  [TriggerTime.before, .instead, .after].any fun time => table.hasTrigger time event

end Table

/-- What happens to a row: the row before and after it, as far as there is one. -/
structure RowEvent where
  event : TriggerEvent
  old? : Option StoredRow := none
  new? : Option StoredRow := none

namespace RowEvent

/-- The number of the source that the new row is. -/
def newCursor : Nat := 0

/-- The number of the source that the old row is. -/
def oldCursor : Nat := 1

/-- The rows at hand in a trigger. -/
def outlook (happening : RowEvent) : Outlook :=
  happening.new?.toList.map (fun row => (newCursor, Station.ofRow row)) ++
    happening.old?.toList.map fun row => (oldCursor, Station.ofRow row)

/-- Where the parts of a trigger stand that an event fires. -/
def site (schema : Schema) (table : Table) (heads : List Head) (event : TriggerEvent) : Site :=
  let row (cursor : Nat) (name : String) : GivenRow :=
    { source := { cursor, name, origin := .table table, heads } }
  let new := row newCursor "new"
  let old := row oldCursor "old"
  let given := match event with
    | .insert => [new]
    | .delete => [old]
    | .update _ => [new, old]
  { schema, isDefined := true, given }

end RowEvent
end AppCatalog
