import AppCatalog.Pages.Page

/-!
# Space on a page

Finding room for a cell on a page and giving it back. Room comes from a gap between cells if one
is large enough, else from the free bytes between the list of cells and the cells, for which the
cells are pushed together if need be. Gaps form a chain in the order of their positions; pieces of
less than four bytes are only counted. A page on which the chain or the cells do not fit is
malformed.
-/

namespace AppCatalog
namespace Page

/-- What is done to a page: it stays changed whether that succeeds or not. -/
abbrev Edit : Type → Type := ExceptT SqlError (StateM Page)

/-- Gives up on a page that is not in order. -/
def giveUp {α : Type} : Edit α := throw .malformed

/-- Changes the bytes of a page. -/
def edit (f : Block → Block) : Edit Unit := modify (·.mapBytes f)

/-- Sets the number of free bytes. -/
def setFree (count : Nat) : Edit Unit := modify fun page => { page with free? := some count }

/-- The number of free bytes that was counted before. -/
def knownFree (page : Page) : Nat := page.free?.getD 0

/-! ## Taking room -/

/-- The greatest number of bytes in small pieces to which another may be added. -/
def maxPieces : Nat := 57

/-- Looks for a gap of that size in the chain from `position`, which is named at `link`. A gap
that is larger keeps its front, unless that is too small for a gap. -/
def gapFrom (layout : Layout) (size : Nat) :
    (rounds link position : Nat) → Edit (Option Nat)
  | 0, _, _ => return none
  | rounds + 1, link, position => do
    let page ← get
    let most := layout.usable - size
    let found := page.bytes.number (position + 2) 2
    let next := page.bytes.number position 2
    if most < position then
      if most + size - 4 < position then giveUp else return none
    else if size ≤ found then
      let left := found - size
      if left < 4 then
        let pieces := page.bytes.byte (page.head + 7)
        if maxPieces < pieces then return none
        edit fun bytes => (bytes.setNumber link 2 next).setByte (page.head + 7) (pieces + left)
        return some position
      else if most < left + position then giveUp
      else
        edit (·.setNumber (position + 2) 2 left)
        return some (position + left)
    else if next ≤ position then
      if next = 0 then return none else giveUp
    else gapFrom layout size rounds position next

/-- Looks for a gap of that size. -/
def findGap (layout : Layout) (size : Nat) : Edit (Option Nat) := do
  let page ← get
  gapFrom layout size layout.usable (page.head + 1) (page.bytes.number (page.head + 1) 2)

/-- Makes the free bytes of a page that are not in a gap ready for use: the cells start at
`position`, and there are no gaps. -/
def settle (position : Nat) : Edit Unit := do
  let page ← get
  let pieces := page.bytes.byte (page.head + 7)
  unless page.listEnd ≤ position && pieces + position - page.listEnd = page.knownFree do giveUp
  edit fun bytes =>
    ((bytes.setNumber (page.head + 5) 2 position).setNumber (page.head + 1) 2 0).clear
      page.listEnd (position - page.listEnd)

/-- Moves the cells together, starting behind the last one of those before `n`. -/
def packFrom (layout : Layout) (old : Page) : (count n position : Nat) → Edit Nat
  | 0, _, position => return position
  | count + 1, n, position => do
    let start := old.listed n
    if layout.usable - 4 < start then giveUp
    let size := (Cell.read layout old.kind old.bytes start).size
    let first := old.bytes.number (old.head + 5) 2
    if position < size ∨ position - size < first ∨ layout.usable < start + size then giveUp
    let position := position - size
    edit fun bytes =>
      (bytes.setNumber (old.listAt + 2 * n) 2 position).put position
        (old.bytes.part start size)
    packFrom layout old count (n + 1) position

/-- Closes one gap, or two, by moving what is before them. -/
def closeGaps (layout : Layout) (first second : Nat) : Edit Unit := do
  let page ← get
  let bytes := page.bytes
  let size := bytes.number (first + 2) 2
  let start := bytes.number (page.head + 5) 2
  if first ≤ start then giveUp
  let mut size2 := 0
  if second ≠ 0 then
    if second < first + size then giveUp
    size2 := bytes.number (second + 2) 2
    if layout.usable < second + size2 then giveUp
    edit (·.move (first + size + size2) (first + size) (second - (first + size)))
  else if layout.usable < first + size then giveUp
  let total := size + size2
  edit (·.move (start + total) start (first - start))
  for n in List.range page.cells do
    let position := page.listed n
    if position < first then edit (·.setNumber (page.listAt + 2 * n) 2 (position + total))
    else if position < second then
      edit (·.setNumber (page.listAt + 2 * n) 2 (position + size2))
  settle (start + total)

/-- Moves the cells together so that all free bytes are before them. If there are no more than
`pieces` bytes in small pieces and at most two gaps, only what is before the gaps is moved. -/
def defragment (layout : Layout) (pieces : Int) : Edit Unit := do
  let page ← get
  let bytes := page.bytes
  let first := bytes.number (page.head + 1) 2
  let second := if first = 0 then 0 else bytes.number first 2
  let isEasy := (bytes.byte (page.head + 7) : Int) ≤ pieces
  if isEasy ∧ layout.usable - 4 < first then giveUp
  if isEasy ∧ first ≠ 0 ∧ layout.usable - 4 < second then giveUp
  if isEasy ∧ first ≠ 0 ∧ (second = 0 ∨ bytes.number second 2 = 0) then
    closeGaps layout first second
  else
    let position ← packFrom layout page page.cells 0 layout.usable
    edit (·.setByte (page.head + 7) 0)
    settle position

/-- Takes room for a cell; there must be enough of it, and for its place in the list. -/
def allocate (layout : Layout) (size : Nat) : Edit Nat := do
  let page ← get
  let listEnd := page.listEnd
  let start := page.bytes.number (page.head + 5) 2
  let start := if start = 0 ∧ layout.usable = 65536 then 65536 else start
  if start < listEnd ∨ layout.usable < start then giveUp
  let gap? ←
    if page.bytes.number (page.head + 1) 2 ≠ 0 ∧ listEnd + 2 ≤ start then findGap layout size
    else pure none
  match gap? with
  | some position => if position ≤ listEnd then giveUp else return position
  | none =>
    if start < listEnd + 2 + size then
      defragment layout (min 4 ((page.knownFree : Int) - (2 + size)))
    let position := (← get).contentAt - size
    edit (·.setNumber (page.head + 5) 2 position)
    return position

/-! ## Giving room back -/

/-- Finds the first gap that does not start before a position, and where it is named. -/
def gapBehind (layout : Layout) (position : Nat) : (rounds link : Nat) → Edit (Nat × Nat)
  | 0, _ => giveUp
  | rounds + 1, link => do
    let page ← get
    let next := page.bytes.number link 2
    if position ≤ next then
      if layout.usable - 4 < next then giveUp else return (link, next)
    else if next = 0 then return (link, 0)
    else if next ≤ link then giveUp
    else gapBehind layout position rounds next

/-- Gives room back: it becomes a gap, which is joined with those beside it, or it is added to
the free bytes before the cells. -/
def release (layout : Layout) (start size : Nat) : Edit Unit := do
  let page ← get
  let head := page.head
  let bytes := page.bytes
  let (link, next) ←
    if bytes.number (head + 1) 2 = 0 then pure (head + 1, 0)
    else gapBehind layout start layout.usable (head + 1)
  let mut first := start
  let mut stop := start + size
  let mut next := next
  let mut pieces := 0
  if bytes.number (head + 1) 2 ≠ 0 then
    if next ≠ 0 ∧ next ≤ stop + 3 then
      if next < stop then giveUp
      pieces := next - stop
      stop := next + bytes.number (next + 2) 2
      if layout.usable < stop then giveUp
      next := bytes.number next 2
    if head + 1 < link then
      let linkStop := link + bytes.number (link + 2) 2
      if start ≤ linkStop + 3 then
        if start < linkStop then giveUp
        pieces := pieces + (start - linkStop)
        first := link
    let counted := bytes.byte (head + 7)
    if counted < pieces then giveUp
    edit (·.setByte (head + 7) (counted - pieces))
  let content := bytes.number (head + 5) 2
  if first ≤ content then
    if first < content ∨ link ≠ head + 1 then giveUp
    edit fun bytes => (bytes.setNumber (head + 1) 2 next).setNumber (head + 5) 2 stop
  else
    edit fun bytes =>
      ((bytes.setNumber link 2 first).setNumber first 2 next).setNumber (first + 2) 2
        (stop - first)
  setFree (page.knownFree + size)

/-! ## Cells -/

/-- Takes a cell off the page. -/
def drop (layout : Layout) (n size : Nat) : Edit Unit := do
  let page ← get
  let position := page.listed n
  if layout.usable < position + size then giveUp
  release layout position size
  let left := page.cells - 1
  let head := page.head
  if left = 0 then
    edit fun bytes =>
      ((bytes.setNumber (head + 1) 4 0).setByte (head + 7) 0).setNumber (head + 5) 2 layout.usable
    setFree (layout.usable - page.listAt)
  else
    let place := page.listAt + 2 * n
    edit fun bytes => (bytes.move place (place + 2) (2 * (left - n))).setNumber (head + 3) 2 left
    setFree ((← get).knownFree + 2)

/-- Puts a cell at its place in the list if there is room, else among those without room. The
answer says whether there was room. -/
def place (layout : Layout) (n : Nat) (cell : Block) : Edit Bool := do
  let page ← get
  if page.homeless.size ≠ 0 ∨ page.knownFree < cell.size + 2 then
    modify fun page => { page with homeless := page.homeless.push (n, cell) }
    return false
  else
    let position ← allocate layout cell.size
    setFree (page.knownFree - (2 + cell.size))
    let slot := page.listAt + 2 * n
    edit fun bytes =>
      (((bytes.put position cell).move (slot + 2) slot (2 * (page.cells - n))).setNumber slot 2
        position).setNumber (page.head + 3) 2 (page.cells + 1)
    return true

end Page
end AppCatalog
