import AppCatalog.Schema.Definition

/-!
# What definitions take rows from

The databases that the sources of a view or a trigger name, wherever the sources stand: in
selections, in selections inside of expressions, and in those that are known by name. A view or a
trigger may only speak of its own database.
-/

namespace AppCatalog

mutual

/-- The databases that are named in an expression. -/
def Expression.databases : Expression → List String
  | .collate operand _ => operand.databases
  | .cast operand _ => operand.databases
  | .unary _ operand => operand.databases
  | .binary _ left right => left.databases ++ right.databases
  | .isNull operand => operand.databases
  | .notNull operand => operand.databases
  | .like _ _ arguments => Expression.allDatabases arguments
  | .between _ operand low high => operand.databases ++ low.databases ++ high.databases
  | .inList _ operand list => operand.databases ++ Expression.allDatabases list
  | .inSelection _ operand selection => operand.databases ++ selection.databases
  | .exists selection => selection.databases
  | .scalar selection => selection.databases
  | .case operand? branches otherwise? =>
    Expression.optionDatabases operand? ++ Expression.branchDatabases branches
      ++ Expression.optionDatabases otherwise?
  | .call _ _ arguments => Expression.allDatabases arguments
  | .callOver _ _ _ arguments order filter? window? =>
    Expression.termDatabases order ++ Expression.allDatabases arguments
      ++ Expression.optionDatabases filter? ++ Window.optionDatabases window?
  | .row items => Expression.allDatabases items
  | _ => []

/-- The databases that are named in some expressions. -/
def Expression.allDatabases : List Expression → List String
  | [] => []
  | expression :: rest => expression.databases ++ Expression.allDatabases rest

/-- The databases that are named in an expression, if there is one. -/
def Expression.optionDatabases : Option Expression → List String
  | none => []
  | some expression => expression.databases

/-- The databases that are named in the branches of a case distinction. -/
def Expression.branchDatabases : List (Expression × Expression) → List String
  | [] => []
  | (condition, value) :: rest =>
    condition.databases ++ value.databases ++ Expression.branchDatabases rest

/-- The databases that are named in what rows are ordered by. -/
def Expression.termDatabases : List (Expression × Bool × Option Bool) → List String
  | [] => []
  | (expression, _, _) :: rest => expression.databases ++ Expression.termDatabases rest

/-- The databases that are named in a window, if there is one. -/
def Window.optionDatabases : Option Window → List String
  | some (.defined _ partition order _) =>
    Expression.allDatabases partition ++ Expression.termDatabases order
  | _ => []

/-- The databases that are named in the columns of a result. -/
def ResultColumn.allDatabases : List ResultColumn → List String
  | [] => []
  | .value expression _ _ :: rest => expression.databases ++ ResultColumn.allDatabases rest
  | _ :: rest => ResultColumn.allDatabases rest

/-- The databases that tables among some sources are named with, and those in their conditions. -/
def Source.allDatabases : List Source → List String
  | [] => []
  | .mk (.table schema? _ _) _ _ condition? _ :: rest =>
    schema?.toList ++ Expression.optionDatabases condition? ++ Source.allDatabases rest
  | .mk (.function schema? _ _) _ _ condition? _ :: rest =>
    schema?.toList ++ Expression.optionDatabases condition? ++ Source.allDatabases rest
  | .mk _ _ _ condition? _ :: rest =>
    Expression.optionDatabases condition? ++ Source.allDatabases rest

/-- The databases that are named inside of some sources. -/
def Source.innerDatabases : List Source → List String
  | [] => []
  | .mk (.function _ _ arguments) _ _ _ _ :: rest =>
    Expression.allDatabases arguments ++ Source.innerDatabases rest
  | .mk (.selection selection) _ _ _ _ :: rest =>
    selection.databases ++ Source.innerDatabases rest
  | .mk (.sources sources) _ _ _ _ :: rest =>
    Source.allDatabases sources ++ Source.innerDatabases sources ++ Source.innerDatabases rest
  | _ :: rest => Source.innerDatabases rest

/-- The databases that are named in selections that are known by name. -/
def Selection.namedDatabases :
    List (String × List String × Option Bool × Selection) → List String
  | [] => []
  | (_, _, _, selection) :: rest => selection.databases ++ Selection.namedDatabases rest

/-- The databases that are named in rows of values. -/
def Expression.rowDatabases : List (List Expression) → List String
  | [] => []
  | row :: rest => Expression.allDatabases row ++ Expression.rowDatabases rest

/-- The databases that are named in a selection. -/
def Selection.databases : Selection → List String
  | .plain _ columns sources condition? groups having? _ =>
    Source.allDatabases sources ++ ResultColumn.allDatabases columns
      ++ Expression.optionDatabases condition? ++ Expression.allDatabases groups
      ++ Expression.optionDatabases having? ++ Source.innerDatabases sources
  | .values rows => Expression.rowDatabases rows
  | .compound _ left right => right.databases ++ left.databases
  | .ordered selection order limit? offset? =>
    selection.databases ++ Expression.termDatabases order ++ Expression.optionDatabases limit?
      ++ Expression.optionDatabases offset?
  | .withNames names selection => selection.databases ++ Selection.namedDatabases names
  | .known _ => []

end

namespace Assignment

/-- The databases that are named in some assignments. -/
def databases (assignments : List Assignment) : List String :=
  assignments.flatMap (·.value.databases)

end Assignment

namespace TriggerStep

/-- The databases that are named in a step of a trigger. -/
def databases : TriggerStep → List String
  | .insert _ _ _ selection upserts =>
    selection.databases ++ upserts.flatMap fun upsert =>
      upsert.target.flatMap (·.expression.databases)
        ++ Expression.optionDatabases upsert.targetCondition?
        ++ (upsert.assignments?.map Assignment.databases).getD []
        ++ Expression.optionDatabases upsert.condition?
  | .update _ _ assignments sources condition? =>
    Expression.optionDatabases condition? ++ Assignment.databases assignments
      ++ Source.allDatabases sources ++ Source.innerDatabases sources
  | .delete _ condition? => Expression.optionDatabases condition?
  | .select selection => selection.databases

end TriggerStep

/-- The first of some databases that is not the own one. -/
def foreignDatabase? (databases : List String) : Option String :=
  databases.find? (·.toLower ≠ "main")

end AppCatalog
