import AppCatalog.Pages.Allocation
import AppCatalog.Pages.Cursor

/-!
# Records that do not fit

What of a record does not fit into its cell goes on in a chain of pages, each of which names the
next one. Cells are written together with their chain, and a chain is given back together with
its cell.
-/

namespace AppCatalog
namespace Volume

/-- Writes what is left of a record from `offset` on to a chain of pages behind `previous`; there
is none before the first. The answer is the first page of the chain. -/
def writeChain (record : Block) : (rounds offset previous : Nat) → Act Nat
  | 0, _, _ => giveUp
  | rounds + 1, offset, previous => do
    let layout := (← get).layout
    let next := previous + 1
    let near :=
      if !layout.registered then previous
      else if layout.isRegister next then next + 1
      else next
    let number ← allocate (.near near)
    ifRegistered
      (register number (if previous = 0 then .overflow else .continuation) previous)
    let rest := offset + layout.chunk
    let chunk := record.extract offset rest
    alter number fun bytes => (bytes.setNumber 0 4 0).put 4 chunk
    if rest < record.size then
      let follower ← pinning [number] (writeChain record rounds rest number)
      alter number (·.setNumber 0 4 follower)
    return number

/-- Makes the cell of a record, with room for the page under it above the leaves. -/
def writeCell (kind : PageKind) (key : Int) (record : Block) : Act Block := do
  let layout := (← get).layout
  let number := if kind.isTable then Block.ofVarint (Block.unsigned 64 key) else #[]
  let front := Block.zeros kind.linkSize ++ Block.ofVarint record.size ++ number
  let inner := Cell.innerOf layout kind record.size
  if inner = record.size then
    let cell := front ++ record
    return cell ++ Block.zeros (Cell.minSize - cell.size)
  else
    let chain ← writeChain record record.size inner 0
    return front ++ record.extract 0 inner ++ Block.ofNumber 4 chain

/-- Gives the pages of a chain back. -/
def freeChain : (count number : Nat) → Act Unit
  | 0, _ => return
  | count + 1, number => do
    if number < 2 ∨ (← get).count < number then giveUp
    let next ← if count = 0 then pure 0 else Cursor.continuation number
    if (← pins number) ≠ 0 then giveUp
    free number
    freeChain count next

/-- Gives the chain of a cell of a page back, if it has one. -/
def freeOverflow (number : Nat) (cell : Cell) (position : Nat) : Act Unit := do
  if cell.overflows then
    let layout := (← get).layout
    if layout.pageSize < position + cell.size then giveUp
    let first := (← page number).bytes.number (position + cell.size - 4) 4
    freeChain ((cell.length - cell.inner + layout.chunk - 1) / layout.chunk) first

/-- Registers the chain of a cell, if it has one, with the page of the cell. -/
def registerOverflow (number : Nat) (kind : PageKind) (bytes : Block) (position : Nat) :
    Act Unit := do
  let cell := Cell.read (← get).layout kind bytes position
  if cell.inner < cell.length then
    register (bytes.number (position + cell.size - 4) 4) .overflow number

/-- Registers all pages to which a page of a tree refers. -/
def registerLinks (number : Nat) : Act Unit := do
  let page ← check number
  let layout := (← get).layout
  for n in List.range page.cells do
    let position := page.cellAt layout n
    let cell := page.cell layout n
    if cell.inner < cell.length ∧ layout.pageSize < position + cell.inner then giveUp
    registerOverflow number page.kind page.bytes position
    unless page.isLeaf do register (page.bytes.number position 4) .child number
  unless page.isLeaf do register page.lastLink .child number

/-- Puts a cell on a page that was touched, or leaves it without room there. -/
def place (number n : Nat) (cell : Block) : Act Unit := do
  let layout := (← get).layout
  let hasRoom ← onPage number (Page.place layout n cell)
  if hasRoom then
    ifRegistered (registerOverflow number (← page number).kind cell 0)

end Volume
end AppCatalog
