import AppCatalog.Pages.Volume

/-!
# Cursors

A place in a tree: a page, a cell of it, and the way from the root to the page. Cursors step from
cell to cell in the order of the tree, and search for the number of a row or for a record. A tree
that is deeper than any tree can be, has an empty page below its root, or mixes pages of tables
with pages of indexes is malformed.
-/

namespace AppCatalog

/-- Whether and how a cursor rests on a cell. -/
inductive Rest where
  /-- On the cell. -/
  | on
  /-- On none. -/
  | off
  /-- On what came before or, if `isNext`, behind a cell that is gone. -/
  | beside (isNext : Bool)
  /-- Where a row of that number was, if the tree is searched for it again. -/
  | lost (key : Int)
  deriving Repr, DecidableEq

/-- A place in a tree. -/
structure Cursor where
  root : Nat
  isTable : Bool
  /-- The pages above and the place in each, from the root. -/
  path : Array (Nat × Nat) := #[]
  /-- The page; zero before the tree was entered. -/
  page : Nat := 0
  /-- The cell of the page. -/
  place : Nat := 0
  rest : Rest := .off
  /-- The number of the row, if it was read. -/
  key? : Option Int := none
  /-- Whether the cell is known to be the last one of the tree. -/
  atEnd : Bool := false
  deriving Repr, DecidableEq

namespace Cursor

/-- What is done with a cursor. -/
abbrev Act : Type → Type := Volume.Act

/-- Gives up on a tree that does not fit together. -/
def giveUp {α : Type} : Act α := throw .malformed

/-- The greatest number of pages above a page. -/
def maxDepth : Nat := 19

/-- Whether the cursor rests on a cell. -/
def isOn (cursor : Cursor) : Bool := cursor.rest = .on

/-- The pages on which a cursor rests. -/
def pages (cursor : Cursor) : List Nat :=
  if cursor.page = 0 then [] else cursor.page :: (cursor.path.map (·.1)).toList

/-- The page on which a cursor rests. -/
def here (cursor : Cursor) : Act Page := Volume.page cursor.page

/-- The cell on which a cursor rests. -/
def cell (cursor : Cursor) : Act Cell := do
  return (← cursor.here).cell (← get).layout cursor.place

/-! ## Up and down -/

/-- Goes to a page under the one of the cursor. -/
def toChild (cursor : Cursor) (child : Nat) : Act Cursor := do
  if maxDepth ≤ cursor.path.size then giveUp
  let page ← Volume.treePage child
  if page.cells = 0 ∨ page.kind.isTable ≠ cursor.isTable then giveUp
  return { cursor with
    path := cursor.path.push (cursor.page, cursor.place), page := child, place := 0, key? := none }

/-- Goes back to the page above. -/
def toParent (cursor : Cursor) : Cursor :=
  match cursor.path.back? with
  | none => cursor
  | some (page, place) => { cursor with path := cursor.path.pop, page, place, key? := none }

/-- Goes to the first cell of the root. -/
def toRoot (cursor : Cursor) : Act Cursor := do
  let root ← Volume.treePage cursor.root
  if root.kind.isTable ≠ cursor.isTable then giveUp
  let cursor : Cursor :=
    { root := cursor.root, isTable := cursor.isTable, page := cursor.root, rest := .on }
  if root.cells ≠ 0 then return cursor
  else if root.isLeaf then return { cursor with rest := .off }
  else if cursor.root ≠ 1 then giveUp
  else cursor.toChild root.lastLink

/-- Goes down to the first leaf from the cell on which the cursor rests. -/
def leftmost (cursor : Cursor) : (rounds : Nat) → Act Cursor
  | 0 => return cursor
  | rounds + 1 => do
    let page ← cursor.here
    if page.isLeaf then return cursor
    else leftmost (← cursor.toChild (page.link (← get).layout cursor.place)) rounds

/-- Goes down to the last cell of the last leaf. -/
def rightmost (cursor : Cursor) : (rounds : Nat) → Act Cursor
  | 0 => return cursor
  | rounds + 1 => do
    let page ← cursor.here
    if page.isLeaf then return { cursor with place := page.cells - 1 }
    else
      let cursor := { cursor with place := page.cells }
      rightmost (← cursor.toChild page.lastLink) rounds

/-- As many steps down as there can be, and one more. -/
def downward : Nat := maxDepth + 2

/-- Goes to the first cell of the tree. -/
def first (cursor : Cursor) : Act Cursor := do
  let cursor ← cursor.toRoot
  if cursor.isOn then cursor.leftmost downward else return cursor

/-- Goes to the last cell of the tree. -/
def last (cursor : Cursor) : Act Cursor := do
  if cursor.isOn && cursor.atEnd then return cursor
  let cursor ← cursor.toRoot
  if cursor.isOn then return { ← cursor.rightmost downward with atEnd := true }
  else return cursor

/-! ## To the next cell -/

/-- Goes on behind a page under the cursor: cells above the leaves of a table are no rows. -/
def ascend (cursor : Cursor) : (rounds : Nat) → Act Cursor
  | 0 => return { cursor with rest := .off }
  | rounds + 1 => do
    let cursor := cursor.toParent
    let page ← cursor.here
    if page.cells ≤ cursor.place then ascend cursor rounds
    else if cursor.isTable then
      let cursor := { cursor with place := cursor.place + 1 }
      (← cursor.toChild (page.link (← get).layout cursor.place)).leftmost downward
    else return cursor

/-- Goes to the next cell. -/
def step (cursor : Cursor) : Act Cursor := do
  let page ← cursor.here
  if !page.isChecked then giveUp
  let cursor := { cursor with place := cursor.place + 1, key? := none, atEnd := false }
  if page.isLeaf then
    if cursor.place < page.cells then return cursor else cursor.ascend cursor.path.size
  else (← cursor.toChild (page.link (← get).layout cursor.place)).leftmost downward

/-- Goes back behind a page under the cursor. -/
def descend (cursor : Cursor) : (rounds : Nat) → Act Cursor
  | 0 => return { cursor with rest := .off }
  | rounds + 1 => do
    if cursor.place = 0 then
      if cursor.path.isEmpty then return { cursor with rest := .off }
      else descend cursor.toParent rounds
    else
      let cursor := { cursor with place := cursor.place - 1, key? := none }
      let page ← cursor.here
      if cursor.isTable && !page.isLeaf then
        (← cursor.toChild (page.link (← get).layout cursor.place)).rightmost downward
      else return cursor

/-- Goes to the cell before. -/
def back (cursor : Cursor) : Act Cursor := do
  let page ← cursor.here
  if !page.isChecked then giveUp
  let cursor := { cursor with key? := none, atEnd := false }
  if page.isLeaf then cursor.descend (cursor.path.size + 2)
  else (← cursor.toChild (page.link (← get).layout cursor.place)).rightmost downward

/-! ## Searching for a row -/

/-- Where a search on a page ended. -/
structure Hit where
  place : Nat
  /-- Whether what was searched for is there, comes before it or behind it. -/
  order : Ordering
  /-- The place of the page under this one where the search goes on. -/
  link : Nat

/-- Reads the number of a cell of a page of a table. -/
def keyAt (page : Page) (layout : Layout) (n : Nat) : Act Int := do
  let start := page.cellAt layout n + page.kind.linkSize
  let front := (List.range layout.pageSize).find? fun k =>
    page.bytes.byte (start + k) < 128 || layout.pageSize ≤ start + k + 1
  let skipped := if page.isLeaf then front.getD 0 + 1 else 0
  if page.isLeaf ∧ 128 ≤ page.bytes.byte (start + skipped - 1) then giveUp
  return Block.signed 64 (page.bytes.varint (start + skipped)).1

/-- Searches between two cells of a page, trying `place` first. -/
def searchRow (page : Page) (layout : Layout) (key : Int) :
    (rounds low high place : Nat) → Act Hit
  | 0, low, _, place => return ⟨place, .gt, low⟩
  | rounds + 1, low, high, place => do
    let found ← keyAt page layout place
    if found < key then
      let low := place + 1
      if high ≤ low then return ⟨place, .lt, low⟩
      else searchRow page layout key rounds low high ((low + high - 1) / 2)
    else if key < found then
      if place ≤ low then return ⟨place, .gt, low⟩
      else searchRow page layout key rounds low place ((low + place - 1) / 2)
    else return ⟨place, .eq, place⟩

/-- Searches for a row from the page of the cursor down. A search from the right tries the last
cell of each page first. -/
def seekFrom (key : Int) (fromRight : Bool) :
    (rounds : Nat) → Cursor → Act (Cursor × Ordering)
  | 0, _ => giveUp
  | rounds + 1, cursor => do
    let layout := (← get).layout
    let page ← cursor.here
    let high := page.cells
    let place := if fromRight then high - 1 else (high - 1) / 2
    let hit ← searchRow page layout key (high + 1) 0 high place
    if page.isLeaf then
      let key? := if hit.order = .eq then some key else none
      return ({ cursor with place := hit.place, key? }, hit.order)
    else
      let cursor := { cursor with place := hit.link }
      seekFrom key fromRight rounds (← cursor.toChild (page.link layout hit.link))

/-- Searches for a row from the root. -/
def seekFromRoot (cursor : Cursor) (key : Int) (fromRight : Bool) : Act (Cursor × Ordering) := do
  let cursor ← cursor.toRoot
  if cursor.isOn then seekFrom key fromRight downward cursor else return (cursor, .lt)

/-- Searches for a row. The answer says how what the cursor rests on compares with it. A cursor
that is on the row, just before it or at the end of the tree does not search. -/
def seek (cursor : Cursor) (key : Int) (fromRight : Bool := false) :
    Act (Cursor × Ordering) := do
  match cursor.isOn, cursor.key? with
  | true, some found =>
    if found = key then return (cursor, .eq)
    else if key < found then cursor.seekFromRoot key fromRight
    else if cursor.atEnd then return (cursor, .lt)
    else if found + 1 = key then
      let next ← cursor.step
      if next.isOn then
        if (← next.cell).key = key then return ({ next with key? := some key }, .eq)
        else next.seekFromRoot key fromRight
      else next.seekFromRoot key fromRight
    else cursor.seekFromRoot key fromRight
  | _, _ => cursor.seekFromRoot key fromRight

/-- The number of the row on which the cursor rests. -/
def key (cursor : Cursor) : Act (Int × Cursor) := do
  let key := (← cursor.cell).key
  return (key, { cursor with key? := some key })

/-- Goes back to where a cell was that is gone. -/
def restore (cursor : Cursor) : Act Cursor := do
  match cursor.rest with
  | .lost key =>
    let (cursor, order) ← cursor.seekFromRoot key false
    if cursor.isOn then
      match order with
      | .eq => return cursor
      | .lt => return { cursor with rest := .beside false }
      | .gt => return { cursor with rest := .beside true }
    else return cursor
  | _ => return cursor

/-- Goes to the next cell, also from where a cell is gone. -/
def next (cursor : Cursor) : Act Cursor := do
  let cursor ← cursor.restore
  match cursor.rest with
  | .on => cursor.step
  | .beside isNext =>
    let cursor := { cursor with rest := .on }
    if isNext then return cursor else cursor.step
  | _ => return { cursor with rest := .off }

/-! ## Records -/

/-- The page that continues a record behind another one. If pages are registered the register
tells, unless the pages do not follow each other. -/
def continuation (number : Nat) : Act Nat := do
  let volume ← get
  let layout := volume.layout
  let guess := number + 1
  let guess := if layout.isRegister guess then guess + 1 else guess
  let isNext ←
    if layout.registered && guess ≤ volume.count then
      let (use, parent) ← Volume.registered guess
      pure (use = .continuation && parent = number)
    else pure false
  if isNext then return guess
  else return (← Volume.page number).bytes.number 0 4

/-- The page after the first ones of the chain that is read, behind one of it. -/
def nextInChain (index number : Nat) : Act Nat := do
  match (← get).trail[index]? with
  | some next => return next
  | none => continuation number

/-- Notes a page of the chain that is read, after the first ones of it. -/
def comeBy (index number : Nat) : Act Unit :=
  modify fun volume =>
    if index = 0 ∧ volume.trail[0]? ≠ some number then { volume with trail := #[number] }
    else if index = volume.trail.size then { volume with trail := volume.trail.push number }
    else volume

/-- Checks that a part of a page can be read. A part that continues others is read from the file as
it is, as long as nothing is written; it must be there in full. -/
def checkPart (number count taken : Nat) : Act Unit := do
  let volume ← get
  let isDirect := !volume.written && 4 ≤ taken
  if isDirect && volume.size < (number - 1) * volume.layout.pageSize + count + 4 then
    throw .cutOff

/-- Reads bytes of a record from a chain of pages, from one of them on, which stands in the chain
after `index` others. So many bytes were taken before. -/
def readChain : (rounds index page offset count taken : Nat) → Act Block
  | 0, _, _, _, _, _ => giveUp
  | rounds + 1, index, page, offset, count, taken => do
    if count = 0 then return #[]
    let volume ← get
    let chunk := volume.layout.chunk
    if page = 0 ∨ volume.count < page then giveUp
    comeBy index page
    if chunk ≤ offset then
      readChain rounds (index + 1) (← nextInChain (index + 1) page) (offset - chunk) count taken
    else
      let here := min count (chunk - offset)
      if offset = 0 then checkPart page here taken
      let bytes := (← Volume.page page).bytes
      let rest ←
        readChain rounds (index + 1) (bytes.number 0 4) 0 (count - here) (taken + here)
      return bytes.part (offset + 4) here ++ rest

/-- Reads bytes of the record on which the cursor rests. -/
def read (cursor : Cursor) (offset count : Nat) : Act Block := do
  let layout := (← get).layout
  let page ← cursor.here
  if page.cells ≤ cursor.place then giveUp
  let cell := page.cell layout cursor.place
  if layout.usable - cell.inner < cell.content then giveUp
  let here := min count (cell.inner - offset)
  let front := page.bytes.part (cell.content + offset) here
  if here = count then return front
  let next := page.bytes.number (cell.content + cell.inner) 4
  let rounds := (cell.length - cell.inner) / layout.chunk + 3
  return front ++ (← readChain rounds 0 next (offset - cell.inner) (count - here) here)

/-- Where the record on which a cursor rests stands on its page. -/
structure Front where
  /-- The page from where the record starts. -/
  bytes : Block
  /-- How many of the bytes belong to the record. -/
  here : Nat
  /-- The length of the whole record. -/
  length : Nat

/-- The start of the record on which the cursor rests. -/
def front (cursor : Cursor) : Act Front := do
  let size := (← get).layout.pageSize
  let cell ← cursor.cell
  return {
    bytes := (← cursor.here).bytes.extract cell.content size
    here := min cell.inner (size - cell.content)
    length := cell.length }

/-- Reads bytes of a record that do not all stand on the page of the cursor. There is no record
as long as all pages together. -/
def fetch (cursor : Cursor) (offset count : Nat) : Act Block := do
  let volume ← get
  if volume.layout.pageSize * volume.count < offset + count then giveUp
  cursor.read offset count

/-- Reads the first bytes of a record. If they are on the page, what stands behind them there
comes with them. -/
def fetchFront (cursor : Cursor) (count : Nat) : Act Block := do
  let front ← cursor.front
  if count ≤ front.here then return front.bytes else cursor.fetch 0 count

/-! ## Searching for a record -/

/-- How records compare with what is searched for; `isMet` if the record has all that is asked
for. -/
structure Match where
  order : Ordering
  isMet : Bool := false

/-- What is searched for in an index. A record that is compared with it stands at a position of
some bytes and has a length; there may be bytes behind it. -/
structure Probe where
  /-- Compares a record that is whole on its page. -/
  compareShort : (bytes : Block) → (position length : Nat) → Except SqlError Match
  /-- Compares any record. -/
  compare : (bytes : Block) → (position length : Nat) → Except SqlError Match

/-- Compares the record of a cell of an index, if it is whole on its page and not too long to be
told at once. -/
def compareShort? (probe : Probe) (page : Page) (layout : Layout) (n : Nat) :
    Option (Except SqlError Match) :=
  let start := page.cellAt layout n + page.kind.linkSize
  let first := page.bytes.byte start
  let second := page.bytes.byte (start + 1)
  if first ≤ layout.maxShort then some (probe.compareShort page.bytes (start + 1) first)
  else
    let length := first % 128 * 128 + second
    if second < 128 ∧ length ≤ layout.maxIndexed then
      some (probe.compareShort page.bytes (start + 2) length)
    else none

/-- Compares the record of a cell. -/
def compareAt (cursor : Cursor) (probe : Probe) (page : Page) (n : Nat) : Act Match := do
  let volume ← get
  match compareShort? probe page volume.layout n with
  | some found => MonadExcept.ofExcept found
  | none =>
    let length := (page.cell volume.layout n).length
    if length < 2 ∨ volume.count < length / volume.layout.usable then giveUp
    let record ← { cursor with place := n }.read 0 length
    MonadExcept.ofExcept (probe.compare record 0 length)

/-- Searches between two cells of a page of an index. -/
def searchRecord (cursor : Cursor) (probe : Probe) (page : Page) :
    (rounds low high : Nat) → (met : Bool) → Act (Hit × Bool)
  | 0, low, _, met => return (⟨low, .gt, low⟩, met)
  | rounds + 1, low, high, met => do
    let place := (low + high - 1) / 2
    let found ← compareAt cursor probe page place
    let met := met || found.isMet
    match found.order with
    | .eq => return (⟨place, .eq, place⟩, met)
    | .lt =>
      let low := place + 1
      if high ≤ low then return (⟨place, .lt, low⟩, met)
      else searchRecord cursor probe page rounds low high met
    | .gt =>
      if place ≤ low then return (⟨place, .gt, low⟩, met)
      else searchRecord cursor probe page rounds low place met

/-- Where a search for a record ended. -/
structure Found where
  cursor : Cursor
  /-- How what the cursor rests on compares with what was searched for. -/
  order : Ordering
  /-- Whether a record was met that has all that was asked for. -/
  isMet : Bool

/-- Searches for a record from the page of the cursor down. -/
def seekRecordFrom (probe : Probe) : (rounds : Nat) → Cursor → (met : Bool) → Act Found
  | 0, _, _ => giveUp
  | rounds + 1, cursor, met => do
    let page ← cursor.here
    let high := page.cells
    let (hit, met) ← searchRecord cursor probe page (high + 1) 0 high met
    if page.isLeaf ∨ hit.order = .eq then
      return ⟨{ cursor with place := hit.place, key? := none }, hit.order, met⟩
    else
      let cursor := { cursor with place := hit.link }
      let child := page.link (← get).layout hit.link
      seekRecordFrom probe rounds (← cursor.toChild child) met

/-- Whether the page of the cursor is the last leaf. -/
def onLastPage (cursor : Cursor) : Act Bool := do
  for (number, place) in cursor.path do
    if place < (← Volume.page number).cells then return false
  return true

/-- Searches for a record. A cursor on the last leaf does not leave it if the record belongs
there. -/
def seekRecord (cursor : Cursor) (probe : Probe) : Act Found := do
  let layout := (← get).layout
  let mut met := false
  if cursor.isOn then
    let page ← cursor.here
    if page.isLeaf && (← cursor.onLastPage) then
      let found? :=
        if cursor.place + 1 = page.cells then compareShort? probe page layout cursor.place
        else none
      if let some (.ok found) := found? then
        met := met || found.isMet
        if found.order ≠ .gt then return ⟨cursor, found.order, met⟩
      let isClear := match found? with
        | some (.error _) => false
        | _ => true
      if isClear && !cursor.path.isEmpty then
        if let some (.ok found) := compareShort? probe page layout 0 then
          met := met || found.isMet
          if found.order ≠ .gt then
            if !page.isChecked then giveUp
            return ← seekRecordFrom probe downward { cursor with atEnd := false } met
  let cursor ← cursor.toRoot
  if cursor.isOn then seekRecordFrom probe downward cursor met
  else return ⟨cursor, .lt, met⟩

/-! ## Counting -/

/-- Counts the cells of a tree from the page of the cursor on. -/
def countFrom : (rounds : Nat) → Cursor → (total : Nat) → Act Nat
  | 0, _, _ => giveUp
  | rounds + 1, cursor, total => do
    let page ← cursor.here
    let total := if page.isLeaf || !page.kind.isTable then total + page.cells else total
    let mut cursor := cursor
    if page.isLeaf then
      let above ← climb cursor.path.size cursor
      match above with
      | none => return total
      | some parent => cursor := { parent with place := parent.place + 1 }
    let page ← cursor.here
    countFrom rounds (← cursor.toChild (page.link (← get).layout cursor.place)) total
where
  /-- The closest page above with a page under it that was not visited. -/
  climb : (rounds : Nat) → Cursor → Act (Option Cursor)
    | 0, _ => return none
    | rounds + 1, cursor => do
      let parent := cursor.toParent
      if (← parent.here).cells ≤ parent.place then climb rounds parent
      else return some parent

/-- The greatest number of pages that a count visits. -/
def maxVisits : Nat := 1 <<< 22

/-- The number of cells of a tree, those above the leaves of a table not included. -/
def count (cursor : Cursor) : Act Nat := do
  let cursor ← cursor.toRoot
  if cursor.isOn then countFrom maxVisits cursor 0 else return 0

end Cursor
end AppCatalog
