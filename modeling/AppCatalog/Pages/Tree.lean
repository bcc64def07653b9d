import AppCatalog.Pages.Balance

/-!
# Trees

Changing trees: inserting and deleting cells, clearing, making and dropping whole trees. A row
that is inserted under a number that is in use takes the place of the one that is there.
-/

namespace AppCatalog
namespace Volume

/-! ## Inserting -/

/-- Writes a record over one of the same length. -/
def overwrite (cursor : Cursor) (record : Block) : Act Unit := do
  let layout := (← get).layout
  let page ← cursor.here
  let cell ← cursor.cell
  if layout.pageSize < cell.content + cell.inner ∨ cell.content < page.listAt then giveUp
  let put (number position : Nat) (part : Block) : Act Unit := do
    if (← Volume.page number).bytes.part position part.size ≠ part then
      touch number
      alter number (·.put position part)
  put cursor.page cell.content (record.extract 0 cell.inner)
  let mut next := page.bytes.number (cell.content + cell.inner) 4
  let mut offset := cell.inner
  for _ in List.range record.size do
    if record.size ≤ offset then return
    let number := next
    let found ← Volume.page number
    if found.isChecked ∨ (← pins number) ≠ 0 then giveUp
    next := found.bytes.number 0 4
    put number 4 (record.extract offset (offset + layout.chunk))
    offset := offset + layout.chunk

/-- Puts a new cell in place of the one on which the cursor rests. The answer says whether that
is all there is to do. -/
def replaceCell (cursor : Cursor) (cell : Block) : Act Bool := do
  let layout := (← get).layout
  let page ← cursor.here
  if page.cells ≤ cursor.place then giveUp
  touch cursor.page
  let position := page.cellAt layout cursor.place
  let old := page.cell layout cursor.place
  freeOverflow cursor.page old position
  let isTight := !layout.registered || cell.size < layout.minInner
  if old.size = cell.size ∧ !old.overflows ∧ isTight then
    if position < page.head + 10 ∨ layout.pageSize < position + cell.size then giveUp
    alter cursor.page (·.put position cell)
    return true
  else
    onPage cursor.page (Page.drop layout cursor.place old.size)
    return false

/-- Inserts a record where the cursor rests: before the cell, behind it or in place of it, as
`order` says how the cell compares with the new one. -/
def insertAt (cursor : Cursor) (order : Ordering) (key : Int) (record : Block) : Act Cursor := do
  let page ← countedPage cursor.page
  let link := page.bytes.part (page.cellAt (← get).layout cursor.place) 4
  let cell ← pinning cursor.pages (writeCell page.kind key record)
  let cell := if page.isLeaf then cell else cell.put 0 link
  let cursor := { cursor with key? := none, atEnd := false }
  let isDone ← if order = .eq then pinning cursor.pages (replaceCell cursor cell) else pure false
  if isDone then return cursor
  let place :=
    if order = .lt ∧ page.cells ≠ 0 then cursor.place + 1 else cursor.place
  let cursor := { cursor with place }
  touch cursor.page
  Volume.place cursor.page place cell
  if (← cursor.here).homeless.isEmpty then return cursor
  else return { ← balance cursor with rest := .off }

/-- Inserts a row. `order?` says how the row on which the cursor rests compares, if that is
known; else the row's place is searched for, from the right if it is `appended`. -/
def insertRow (cursor : Cursor) (key : Int) (record : Block) (order? : Option Ordering := none)
    (appended : Bool := false) : Act Cursor := do
  if cursor.isOn && cursor.key? = some key then
    if (← cursor.cell).length = record.size then
      overwrite cursor record
      return cursor
    else insertAt cursor .eq key record
  else
    let (cursor, order) ← match order? with
      | some order => pure (cursor, order)
      | none => cursor.seek key appended
    insertAt cursor order key record

/-- Inserts a record into an index. `order?` says how the record on which the cursor rests
compares, if that is known; else the record's place is searched for. -/
def insertRecord (cursor : Cursor) (probe : Cursor.Probe) (record : Block)
    (order? : Option Ordering := none) : Act Cursor := do
  let (cursor, order) ← match order? with
    | some order => pure (cursor, order)
    | none => do
      let found ← cursor.seekRecord probe
      pure (found.cursor, found.order)
  if order = .eq ∧ (← cursor.cell).length = record.size then
    overwrite cursor record
    return cursor
  else insertAt cursor order record.size record

/-! ## Deleting -/

/-- The page under the cell of a page above the leaves to which a leaf belongs. -/
def childOn (cursor : Cursor) (depth : Nat) : Nat :=
  match cursor.path[depth + 1]? with
  | some (page, _) => page
  | none => cursor.page

/-- Moves the last cell of the leaf of a cursor to the place of one that was taken off a page
above, at `depth`. -/
def liftCell (cursor : Cursor) (number place depth : Nat) : Act Unit := do
  let layout := (← get).layout
  let leaf ← countedPage cursor.page
  let last := leaf.cells - 1
  let position := leaf.cellAt layout last
  if position < 4 then giveUp
  let size := (leaf.cell layout last).size
  touch cursor.page
  Volume.place number place
    (Block.ofNumber 4 (childOn cursor depth) ++ leaf.bytes.part position size)
  onPage cursor.page (Page.drop layout last size)

/-- Deletes the cell on which the cursor rests. A cursor that is `kept` can go on to the next
cell afterwards. -/
def deleteCell (cursor : Cursor) (kept : Bool) : Act Cursor := do
  let cursor ← cursor.restore
  unless cursor.isOn do
    if cursor.rest = .off then giveUp else return cursor
  let layout := (← get).layout
  let number := cursor.page
  let place := cursor.place
  let depth := cursor.path.size
  if (← cursor.here).cells ≤ place then giveUp
  let page ← countedPage number
  let position := page.cellAt layout place
  if position < page.listEnd then giveUp
  let cell := page.cell layout place
  let isShaken := !page.isLeaf || page.cells = 1 ||
    decide (layout.usable * 2 / 3 < page.knownFree + cell.size + 2)
  let leafCursor ← if page.isLeaf then pure cursor else cursor.back
  touch number
  pinning leafCursor.pages (freeOverflow number cell position)
  onPage number (Page.drop layout place cell.size)
  unless page.isLeaf do pinning leafCursor.pages (liftCell leafCursor number place depth)
  let leaf ← leafCursor.here
  let after ←
    if leaf.knownFree * 3 ≤ layout.usable * 2 ∧ leaf.homeless.isEmpty then pure leafCursor
    else balance leafCursor
  if depth < after.path.size then
    let above := (after.path[depth]?.map (·.1)).getD number
    let _ ← balance { after with path := after.path.extract 0 depth, page := above, place }
  if !kept then return { root := cursor.root, isTable := cursor.isTable }
  else if isShaken then
    return { root := cursor.root, isTable := cursor.isTable, rest := .lost cell.key }
  else
    let left := (← Volume.page number).cells
    let cursor := { cursor with key? := none, atEnd := false }
    if left ≤ place then return { cursor with place := left - 1, rest := .beside false }
    else return { cursor with rest := .beside true }

/-! ## Whole trees -/

/-- Gives back what the pages of a tree hold, and the pages themselves but for the root. -/
def clearFrom : (rounds : Nat) → (number : Nat) → (isRoot : Bool) → Act Unit
  | 0, _, _ => giveUp
  | rounds + 1, number, isRoot => do
    let page ← treePage number
    if (← pins number) ≠ if number = 1 then 1 else 0 then giveUp
    let layout := (← get).layout
    pinning [number] do
      for n in List.range page.cells do
        let position := page.cellAt layout n
        unless page.isLeaf do clearFrom rounds (page.bytes.number position 4) false
        freeOverflow number (page.cell layout n) position
      unless page.isLeaf do clearFrom rounds page.lastLink false
    if isRoot then
      touch number
      format number page.kind.leaf
    else free number

/-- The greatest number of pages above each other when a tree is cleared. -/
def maxClearDepth : Nat := 1000

/-- Deletes all cells of a tree. -/
def clearTree (root : Nat) : Act Unit := clearFrom maxClearDepth root true

/-- Writes a number of the first page. -/
def setHeader (position count value : Nat) : Act Unit := do
  touch 1
  alter 1 (·.setNumber position count value)

/-! ## Moving pages -/

/-- Makes a page refer to another page in place of one. -/
def relink (number : Nat) (use : Use) (old new : Nat) : Act Unit := do
  touch number
  match use with
  | .continuation =>
    if (← page number).bytes.number 0 4 ≠ old then giveUp
    alter number (·.setNumber 0 4 new)
  | _ =>
    let found ← check number
    let layout := (← get).layout
    for n in List.range found.cells do
      let position := found.cellAt layout n
      if use = .overflow then
        let cell := found.cell layout n
        if cell.inner < cell.length then
          if layout.usable < position + cell.size then giveUp
          if found.bytes.number (position + cell.size - 4) 4 = old then
            alter number (·.setNumber (position + cell.size - 4) 4 new)
            return
      else
        if layout.usable < position + 4 then giveUp
        if found.bytes.number position 4 = old then
          alter number (·.setNumber position 4 new)
          return
    if use ≠ .child ∨ found.lastLink ≠ old then giveUp
    alter number (·.setNumber (found.head + 8) 4 new)

/-- Moves a page to another place. What it refers to, and what refers to it, is told. -/
def relocate (number : Nat) (use : Use) (parent target : Nat) : Act Unit := do
  if number < 3 then giveUp
  let moved ← page number
  touch target
  setPage target moved
  change number fun page => { page with isChecked := false }
  match use with
  | .root | .child | .free => registerLinks target
  | _ =>
    let next := moved.bytes.number 0 4
    if next ≠ 0 then register next .continuation target
  if use ≠ .root then
    relink parent use number target
    register target use parent

/-- The place of the root of the next tree: roots come before all other pages if pages are
registered. -/
def nextRoot (layout : Layout) (greatest : Nat) : Nat :=
  if layout.isRegister (greatest + 1) then greatest + 2 else greatest + 1

/-- Makes a tree; its root is the answer. -/
def createTree (isTable : Bool) : Act Nat := do
  let layout := (← get).layout
  let kind := if isTable then PageKind.tableLeaf else .indexLeaf
  if layout.registered then
    let greatest ← header Layout.greatestRootAt 4
    if (← get).count < greatest then giveUp
    let root := nextRoot layout greatest
    let number ← allocate (.exactly root)
    if number ≠ root then
      let (use, parent) ← registered root
      if use = .root ∨ use = .free then giveUp
      relocate root use parent number
      touch root
    register root .root 0
    setHeader Layout.greatestRootAt 4 root
    format root kind
    return root
  else
    let root ← allocate (.near 1)
    format root kind
    return root

/-- Drops a tree. If roots come before all other pages, the last root takes its place; the answer
is that root then. -/
def dropTree (root : Nat) : Act (Option Nat) := do
  if (← get).count < root then giveUp
  clearTree root
  if (← get).layout.registered then
    let greatest ← header Layout.greatestRootAt 4
    let mut moved? : Option Nat := none
    if root = greatest then free root
    else
      let _ ← page greatest
      relocate greatest .root 0 root
      free greatest
      moved? := some greatest
    let before := greatest - 1
    let before := if (← get).layout.isRegister before then before - 1 else before
    setHeader Layout.greatestRootAt 4 before
    return moved?
  else
    free root
    return none

end Volume
end AppCatalog
