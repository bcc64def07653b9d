import AppCatalog.Query.Resolution

/-!
# Preparing statements

The selections and expressions of a statement, from what is written to what is meant. Sources are
found and names are looked up part by part, so that the first part that makes no sense is told. The
columns of a view are those of its own selection, unless they are given names.
-/

namespace AppCatalog

/-- How far a statement is prepared. -/
structure Preparation where
  drawing : Drawing := {}
  book : Book := #[]
  /-- The queries that do not stand inside of others, with what is wanted of their rows. -/
  uses : List (Nat × Usage) := []

/-- What is done to prepare a statement. -/
abbrev Preparing : Type → Type := StateT Preparation (Except SqlError)

/-! ## Columns of views -/

/-- What a column of a result is called whose names are looked up. -/
def OutlineResult.headTitle (result : OutlineResult) (term : Term) : HeadTitle :=
  match result.label, term.bare with
  | .named name, _ => { name? := some name }
  | .written text, .field field => { name? := some (if field.isScanned then field.name else text) }
  | .written text, _ => { name? := some text }
  | _, _ => { name? := none }

/-- The columns of a selection of its own, whose names are looked up. -/
def Query.headsFor (query : Query) (book : Book) (outline : Outline) : List Head :=
  let results := ((outline.branches.head?).map (·.2.results)).getD []
  let titles := results.zipWith (fun result drawn => result.headTitle drawn.term)
    query.first.results
  book.withKinds query (Head.ofTitles titles)

namespace Directory

/-- Looks up the names in a selection that has nothing around it. -/
def querying (directory : Directory) (number : Nat) : Except SqlError Book := do
  let book : Book := Array.replicate directory.outlines.size default
  let (_, state) ← (directory.queryOf Surroundings.maxDepth number).run { book }
  return state.book

end Directory

/-- The columns of a view inside of some others. -/
def viewHeads (schema : Schema) :
    (rounds : Nat) → (within : List String) → Table → Outlining (List Head)
  | 0, _, _ => Outlining.complain "parser stack overflow"
  | rounds + 1, within, view => do
    if within.any (Table.sameName view.name) then
      Outlining.complain ("view " ++ view.name ++ " is circularly defined")
    if let some heads := (← get).views.lookup view.name then return heads
    match view.view? with
    | none => return view.heads
    | some (names?, selection) =>
      let around : Surroundings :=
        { schema, isDefined := true, within := view.name :: within
          headsOf := viewHeads schema rounds }
      let before ← get
      let number ← around.outline Surroundings.maxDepth selection
      let drawn ← get
      let directory : Directory := { encoding := schema.encoding, outlines := drawn.outlines }
      let book ← directory.querying number
      let query := book.query number
      let found := query.headsFor book (drawn.outlines.getD number default)
      let heads := match names? with
        | none => found
        | some names =>
          let given := Head.ofNames names
          if given.length = found.length then book.withKinds query given else given
      set { before with views := (view.name, heads) :: drawn.views }
      return heads

/-! ## Statements -/

/-- Where the parts of a statement stand. -/
structure Site where
  schema : Schema
  /-- Whether they stand in a definition. -/
  isDefined : Bool := false
  /-- Rows that can be spoken of everywhere. -/
  given : List GivenRow := []
  /-- Whether functions may be called that are not known. -/
  isLenient : Bool := false

namespace Site

/-- The surroundings of selections. -/
def around (site : Site) : Surroundings where
  schema := site.schema
  isDefined := site.isDefined
  headsOf := viewHeads site.schema Surroundings.maxDepth

/-- Finds sources. -/
def draw {α : Type} (act : Outlining α) : Preparing α := do
  let state ← get
  let (result, drawing) ← (act.run state.drawing : Except SqlError _)
  set { state with drawing }
  return result

/-- Looks up names. -/
def resolve {α : Type} (site : Site) (act : Directory → Resolution α) : Preparing α := do
  let state ← get
  let outlines := state.drawing.outlines
  let directory : Directory :=
    { encoding := site.schema.encoding, outlines, given := site.given }
  let more : Book := Array.replicate (outlines.size - state.book.size) default
  let start : Resolving := { book := state.book ++ more, isLenient := site.isLenient }
  let (result, resolving) ← ((act directory).run start : Except SqlError _)
  set { state with book := resolving.book }
  return result

/-- Keeps what is wanted of some queries. -/
def use (uses : List (Nat × Usage)) : Preparing Unit :=
  modify fun state => { state with uses := state.uses ++ uses }

/-- The number of a selection of which something is wanted. -/
def selection (site : Site) (selection : Selection) (usage : Usage := .rows) : Preparing Nat := do
  let number ← draw (site.around.outline Surroundings.maxDepth selection)
  site.resolve fun directory => directory.queryOf Surroundings.maxDepth number
  use [(number, usage)]
  return number

/-- The term that an expression is where some rows can be spoken of. -/
def expression (site : Site) (sight : Sight) (expression : Expression) : Preparing Term := do
  let known (selection : Selection) : Outlining Selection :=
    return .known (← site.around.outline Surroundings.maxDepth selection)
  let expression ← draw (expression.replaceSelections known)
  let term ← site.resolve fun directory => Resolution.among [sight] do
    let term ← directory.termOf Surroundings.maxDepth expression
    Resolution.settle
    return term
  use term.usages
  return term

/-- The source that a table is. -/
def table (name : String) (table : Table) : Preparing QuerySource := do
  let cursor ← draw Outlining.newCursor
  return { cursor, name, origin := .table table, heads := table.heads }

/-- The columns of a table or a view. -/
def headsOf (schema : Schema) (table : Table) : Except SqlError (List Head) := do
  let (heads, _) ← ((viewHeads schema Surroundings.maxDepth [] table).run {})
  return heads

end Site

namespace Preparing

/-- Prepares something on its own. -/
def alone {α : Type} (act : Preparing α) : Except SqlError (α × Preparation) := act.run {}

/-- Keeps a query. -/
def keep (query : Query) : Preparing Nat := do
  let outline : Outline := { branches := [] }
  let number ← Site.draw (Outlining.keep outline)
  modify fun state =>
    let more : Book := Array.replicate (number - state.book.size) default
    { state with book := (state.book ++ more).push query }
  return number

end Preparing
end AppCatalog
