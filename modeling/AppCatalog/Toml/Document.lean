import AppCatalog.Toml.Number
import AppCatalog.Toml.Table

/-!
# TOML documents

Reading a document: values, which may nest, assignments, and sections under headers. The result
is the table that the whole document stands for, or nothing if it is not well-formed.
-/

namespace AppCatalog.Toml

/-! ## Values -/

/-- A value that does not nest. -/
def scalar : Reader Value
  | 't' :: 'r' :: 'u' :: 'e' :: s => some (.boolean true, s)
  | 'f' :: 'a' :: 'l' :: 's' :: 'e' :: s => some (.boolean false, s)
  | s =>
    match text s with
    | some (value, rest) => some (.text value, rest)
    | none =>
      match moment s with
      | some found => some found
      | none => number s

/-- A key, an equals sign and a value, with the blanks around them. -/
def assignment (value : Reader Value) (s : List Char) :
    Option ((List String × Value) × List Char) := do
  let (path, rest) ← dottedKey s
  let (content, rest) ← value (skipBlanks (← expect '=' rest))
  return ((path, content), skipBlanks rest)

/-- One item of an array, with what may stand around it. -/
def item (value : Reader Value) (s : List Char) : Option (Value × List Char) := do
  let (content, rest) ← value (skipVoid false s)
  return (content, skipVoid false rest)

/-- What a reader takes after a comma. -/
def afterComma {α : Type} (reader : Reader α) : Reader α
  | ',' :: s => reader s
  | _ => none

/-- The items of an array, after its bracket. A comma may follow the last one. -/
def arrayBody (value : Reader Value) (s : List Char) : Option (Value × List Char) :=
  match item value s with
  | none => (expect ']' (skipVoid false s)).map fun rest => (.array [], rest)
  | some (first, rest) => do
    let (more, rest) := Text.Step.many (afterComma (item value)) rest
    let rest := match rest with
      | ',' :: rest => skipVoid false rest
      | rest => rest
    return (.array (first :: more), ← expect ']' rest)

/-- The assignments of an inline table, after its brace. -/
def inlineBody (value : Reader Value) (s : List Char) : Option (Value × List Char) :=
  match assignment value s with
  | none => (expect '\x7d' (skipBlanks s)).map fun rest => (.table [], rest)
  | some (first, rest) => do
    let (more, rest) := Text.Step.many (afterComma (assignment value)) rest
    let rest ← expect '\x7d' rest
    return (← inlineTable? (first :: more), rest)

/-- A value of at most `depth` arrays and inline tables inside each other. -/
def value : (depth : Nat) → Reader Value
  | depth + 1, '[' :: s => arrayBody (value depth) s
  | depth + 1, '\x7b' :: s => inlineBody (value depth) s
  | _, s => scalar s

/-! ## Lines and sections -/

/-- A line with an assignment. -/
def assignmentLine (s : List Char) : Option ((List String × Value) × List Char) := do
  let (found, rest) ← assignment (value (depthLimit - 1)) s
  return (found, ← lineEnd rest)

/-- A line that is blank, holds a comment, or holds an assignment. -/
def line (s : List Char) : Option (Option (List String × Value) × List Char) :=
  match skipBlanks s with
  | [] => none
  | '[' :: _ => none
  | s =>
    match lineEnd s with
    | some rest => some (none, rest)
    | none => (assignmentLine s).map fun (found, rest) => (some found, rest)

/-- A run of lines, as its assignments. -/
def lines (s : List Char) : List (List String × Value) × List Char :=
  let (found, rest) := Text.Step.many line s
  (found.filterMap id, skipBlanks rest)

/-- A part of a document under a header. -/
structure Section where
  /-- Whether the header adds to an array of tables. -/
  isElement : Bool
  path : List String
  assignments : List (List String × Value)

/-- A header line: whether it is a double one, and its path. -/
def header : Reader (Bool × List String)
  | '[' :: '[' :: s => do
    let (path, rest) ← dottedKey s
    let rest ← expect ']' (← expect ']' rest)
    return ((true, path), ← lineEnd rest)
  | '[' :: s => do
    let (path, rest) ← dottedKey s
    return ((false, path), ← lineEnd (← expect ']' rest))
  | _ => none

/-- A header and the lines up to the next one. -/
def headed (s : List Char) : Option (Section × List Char) := do
  let ((isElement, path), rest) ← header s
  let (assignments, rest) := lines rest
  return (⟨isElement, path, assignments⟩, rest)

/-! ## Documents -/

/-- The draft with one more section. -/
def addSection (draft : Draft) (part : Section) : Option Draft :=
  if part.isElement then draft.addElement part.path part.assignments
  else draft.openTable part.path part.assignments

/-- A document without a byte-order mark at its start. -/
def withoutMark : List Char → List Char
  | '\uFEFF' :: s => s
  | s => s

/-- The table that a document stands for, or nothing if it is not well-formed. -/
def parse? (document : String) : Option Entries := do
  let (top, rest) := lines (withoutMark document.toList)
  let (sections, rest) := Text.Step.many headed rest
  if rest.isEmpty then
    let draft ← Draft.assignAll [] top
    let draft ← sections.foldlM addSection draft
    return finishedEntries draft
  else
    none

end AppCatalog.Toml
