import AppCatalog.Schema.Table

/-!
# Rows that are there already

An insertion may say what is done in place of it where another row has the number of the new row or
one of its keys. It says so in clauses, each for one of these or for whatever is left. Keys for which
there is a clause are looked at first, in the order of the clauses; the number of the row has its
turn among them, and all other keys come last.
-/

namespace AppCatalog

/-- What a clause is for. -/
inductive ClashTarget where
  | any
  /-- The number of the row. -/
  | number
  /-- The key of the index of that name. -/
  | key (index : String)
  deriving Repr, DecidableEq

/-- A clause: what it is for, and whether the row that is there changes. -/
structure ClashClause where
  target : ClashTarget
  changes : Bool
  deriving Repr, DecidableEq

namespace ClashClause

/-- The first clause for a target, with its place. -/
def find? (clauses : List ClashClause) (target : ClashTarget) : Option (ClashClause × Nat) :=
  clauses.zipIdx.find? fun (clause, _) => clause.target = target || clause.target = .any

/-- What is looked at in turn: the number of the row, if that is asked for, and the keys of
indexes. -/
def turns (clauses : List ClashClause) (isNumbered : Bool) (indexes : List String) :
    List ClashTarget :=
  let all := indexes.map ClashTarget.key
  let number := if isNumbered then [ClashTarget.number] else []
  let listed := (clauses.takeWhile (·.target ≠ .any)).map (·.target)
  let before := listed.takeWhile (· ≠ .number)
  let first := before.eraseDups
  let rest := ((listed.filter (· ≠ .number)).eraseDups).filter (!first.contains ·)
  let others := all.filter fun target => !first.contains target && !rest.contains target
  first ++ number ++ rest ++ others

end ClashClause
end AppCatalog
