import AppCatalog.Pages.Overflow

/-!
# Balance

Bringing a tree back into shape after a page ran over or nearly empty. A row behind all others
goes to a page of its own. Any other page shares its cells with up to two pages beside it, on as
many pages as they need; the cells between the pages go to the page above, which is looked at
next. When the root runs over, its cells first move to a new page under it; when it has a single
page under it that fits, they move back.

Cells are moved from page to page by where they stand, not by copies, and a page is written only
after the cells that move away from it were taken over.
-/

namespace AppCatalog
namespace Volume

/-! ## Cells to be shared -/

/-- Where a cell is that is to be shared. -/
inductive Source where
  /-- On one of the pages, at a position. -/
  | on (page position : Nat)
  /-- In no page. -/
  | loose (cell : Block)

/-- Cells to be shared, in order. -/
structure Pile where
  /-- What the pages hold that share the cells. -/
  kind : PageKind
  /-- The pages, in the order in which they were found. -/
  numbers : Array Nat
  sources : Array Source
  /-- The size of each cell. -/
  sizes : Array Nat

namespace Pile

/-- The number of cells. -/
def size (pile : Pile) : Nat := pile.sources.size

/-- The size of a cell. -/
def sizeAt (pile : Pile) (n : Nat) : Nat := pile.sizes.getD n 0

/-- Adds a cell whose size is given or follows from what it says. -/
def push (pile : Pile) (layout : Layout) (source : Source) (bytes : Block) : Pile :=
  let size := match source with
    | .on _ position => (Cell.read layout pile.kind bytes position).size
    | .loose cell => (Cell.read layout pile.kind cell 0).size
  { pile with sources := pile.sources.push source, sizes := pile.sizes.push size }

/-- Adds a cell of a size. -/
def pushSized (pile : Pile) (cell : Block) (size : Nat) : Pile :=
  { pile with sources := pile.sources.push (.loose cell), sizes := pile.sizes.push size }

/-- The bytes of a cell as they are now. -/
def fetch (pile : Pile) (n : Nat) : Act Block := do
  match pile.sources.getD n (.loose #[]) with
  | .on index position =>
    return (← page (pile.numbers.getD index 0)).bytes.part position (pile.sizeAt n)
  | .loose cell => return cell.part 0 (pile.sizeAt n)

/-- Whether a cell starts on its page and ends behind it. -/
def sticksOut (pile : Pile) (layout : Layout) (n : Nat) : Bool :=
  match pile.sources.getD n (.loose #[]) with
  | .on _ position => position < layout.pageSize && layout.pageSize < position + pile.sizeAt n
  | .loose _ => false

/-- The position of a cell that stands on a page, if it is that page. -/
def positionOn? (pile : Pile) (index n : Nat) : Option Nat :=
  match pile.sources.getD n (.loose #[]) with
  | .on page position => if page = index then some position else none
  | .loose _ => none

end Pile

/-! ## Writing cells to a page -/

/-- Writes cells to a page as if it were empty. Cells that stand on it now are taken from where
they were. -/
def rebuild (pile : Pile) (index first count : Nat) (number : Nat) : Act Unit := do
  let layout := (← get).layout
  let old ← page number
  let start := old.bytes.number (old.head + 5) 2
  let start := if layout.usable < start then 0 else start
  let mut position := layout.usable
  let mut slot := old.listAt
  for n in (List.range count).map (first + ·) do
    let size := pile.sizeAt n
    let cell ← match pile.positionOn? index n with
      | some place =>
        if start ≤ place ∧ place < layout.usable then
          if layout.usable < place + size then giveUp
          pure (old.bytes.part place size)
        else
          if pile.sticksOut layout n then giveUp
          pile.fetch n
      | none =>
        if pile.sticksOut layout n then giveUp
        pile.fetch n
    if position < size then giveUp
    position := position - size
    let target := position
    alter number fun bytes => bytes.setNumber slot 2 target
    slot := slot + 2
    if position < slot then giveUp
    alter number fun bytes => bytes.put target cell
  let target := position
  change number fun page =>
    { page.mapBytes fun bytes =>
        (((bytes.setNumber (page.head + 1) 2 0).setNumber (page.head + 3) 2 count).setNumber
          (page.head + 5) 2 target).setByte (page.head + 7) 0 with
      homeless := #[] }

/-- Gives spans of a page back; a span that does not fit in is left out. -/
def releaseAll (number : Nat) (spans : Array (Nat × Nat)) : Act Unit := do
  let layout := (← get).layout
  for (start, stop) in spans do
    onPage number do
      try Page.release layout start (stop - start)
      catch _ => return

/-- The greatest number of spans that are collected before they are given back. -/
def maxSpans : Nat := 10

/-- Adds a span to others, joined with the first that it touches. -/
def addSpan (spans : Array (Nat × Nat)) (start stop : Nat) : Option (Array (Nat × Nat)) :=
  (spans.findIdx? fun span => span.1 = stop ∨ span.2 = start).map fun n =>
    spans.modify n fun span =>
      if span.1 = stop then (start, span.2) else (span.1, stop)

/-- Gives back what cells take on their page; the answer is how many of them stand on it. -/
def releaseCells (pile : Pile) (index first count number : Nat) : Act Nat := do
  let layout := (← get).layout
  let start := (← page number).listAt
  let mut spans : Array (Nat × Nat) := #[]
  let mut released := 0
  for n in (List.range count).map (first + ·) do
    match pile.positionOn? index n with
    | none => continue
    | some position =>
      if position < start ∨ layout.usable ≤ position then continue
      let stop := position + pile.sizeAt n
      match addSpan spans position stop with
      | some joined => spans := joined
      | none =>
        if maxSpans ≤ spans.size then
          releaseAll number spans
          spans := #[]
        if layout.usable < stop then return 0
        spans := spans.push (position, stop)
      released := released + 1
  releaseAll number spans
  return released

/-- Writes cells to a page, each in a gap or before the cells that are there; the list of cells
goes on at `slot` and may not reach the cells. The answer is where the cells start then, or
nothing if there is no room. -/
def addCells (pile : Pile) (first count number : Nat) (listEnd start slot : Nat) :
    Act (Option Nat) := do
  let layout := (← get).layout
  let mut start := start
  for k in List.range count do
    let n := first + k
    let size := pile.sizeAt n
    let bytes := (← page number).bytes
    let gap? ←
      if bytes.number 1 2 = 0 then pure none
      else onPage number do
        try Page.findGap layout size
        catch _ => return none
    let position ← match gap? with
      | some position => pure position
      | none =>
        if start < listEnd + size then return none
        start := start - size
        pure start
    if pile.sticksOut layout n then return none
    let cell ← pile.fetch n
    alter number fun bytes => (bytes.put position cell).setNumber (slot + 2 * k) 2 position
  return some start

/-- Turns a page with the cells from `old` on into one with `count` cells from `new` on, keeping
what it can. -/
def reshape (pile : Pile) (index old new count number : Nat) : Act Unit := do
  let before ← page number
  let list := before.listAt
  let listEnd := list + 2 * count
  let oldEnd := old + before.allCells
  let newEnd := new + count
  let mut left := before.cells
  if old < new then
    let gone ← releaseCells pile index old (new - old) number
    if left < gone then giveUp
    let kept := left
    alter number (·.move list (list + 2 * gone) (2 * kept))
    left := left - gone
  if newEnd < oldEnd then
    left := left - (← releaseCells pile index newEnd (oldEnd - newEnd) number)
  let content := (← page number).bytes.number 5 2
  let mut start? : Option Nat := if content < listEnd then none else some content
  if new < old then
    if let some start := start? then
      let added := min count (old - new)
      let kept := left
      alter number (·.move (list + 2 * added) list (2 * kept))
      start? ← addCells pile new added number listEnd start list
      left := left + added
  for (place, _) in before.homeless do
    if new ≤ old + place ∧ old + place - new < count then
      if let some start := start? then
        let n := old + place - new
        let slot := list + 2 * n
        if n < left then
          let moved := left - n
          alter number (·.move (slot + 2) slot (2 * moved))
        left := left + 1
        start? ← addCells pile (new + n) 1 number listEnd start slot
  if let some start := start? then
    start? ← addCells pile (new + left) (count - left) number listEnd start (list + 2 * left)
  match start? with
  | some start =>
    change number fun page =>
      { page.mapBytes fun bytes => (bytes.setNumber 3 2 count).setNumber 5 2 start with
        homeless := #[] }
  | none =>
    if count = 0 then giveUp
    rebuild pile index new count number

/-! ## The pages that share -/

/-- Up to three pages beside each other, and what is between them on the page above. -/
structure Siblings where
  /-- The place of the first page among those under the page above. -/
  first : Nat
  /-- The position on the page above that names the last page. -/
  lastAt : Nat
  numbers : Array Nat
  /-- The cells between the pages and their sizes. -/
  dividers : Array (Nat × Block)

/-- How many pages share beside a page. -/
def neighbours : Nat := 2

/-- Takes the cells between pages off the page above, from the last to the first. -/
def takeSiblings (parent first : Nat) :
    (count number : Nat) → Act (List Nat × List (Nat × (Nat ⊕ Block)))
  | 0, number => do
    let _ ← treePage number
    let _ ← countedPage number
    return ([number], [])
  | count + 1, number => do
    let _ ← treePage number
    let _ ← countedPage number
    let layout := (← get).layout
    let above ← page parent
    let place := first + count
    let (size, source, next) ←
      match above.homeless.find? (·.1 = place) with
      | some (_, cell) =>
        change parent fun page => { page with homeless := #[] }
        pure ((Cell.read layout above.kind cell 0).size, Sum.inr cell, cell.number 0 4)
      | none =>
        let n := place - above.homeless.size
        let position := above.cellAt layout n
        let size := (Cell.read layout above.kind above.bytes position).size
        onPage parent (Page.drop layout n size)
        pure (size, Sum.inl position, above.bytes.number position 4)
    let (numbers, dividers) ← takeSiblings parent first count next
    return (numbers ++ [number], dividers ++ [(size, source)])

/-- Finds the pages that share cells with the one at `index` under a page. -/
def findSiblings (parent index : Nat) : Act Siblings := do
  let above ← page parent
  let layout := (← get).layout
  let total := above.allCells
  let first :=
    if total < neighbours ∨ index = 0 then 0
    else if index = total then total - neighbours
    else index - 1
  let count := min total neighbours
  let last := first + count - above.homeless.size
  let lastAt := if last = above.cells then above.head + 8 else above.cellAt layout last
  let (numbers, dividers) ← takeSiblings parent first count (above.bytes.number lastAt 4)
  let bytes := (← page parent).bytes
  let copied := dividers.map fun (size, source) =>
    match source with
    | .inl position => (size, bytes.part position size)
    | .inr cell => (size, cell)
  return { first, lastAt, numbers := numbers.toArray, dividers := copied.toArray }

/-- Collects the cells of pages and what is between them; the answer also says where the cells of
each page end. Between leaves of a table nothing is kept, and other leaves take over what is
between them without the page under it. -/
def collect (siblings : Siblings) : Act (Pile × Array Nat) := do
  let layout := (← get).layout
  let kind := (← page (siblings.numbers.getD 0 0)).kind
  let flag := (← page (siblings.numbers.getD 0 0)).bytes.byte 0
  let mut pile : Pile := { kind, numbers := siblings.numbers, sources := #[], sizes := #[] }
  let mut ends : Array Nat := #[]
  for index in List.range siblings.numbers.size do
    let old ← page (siblings.numbers.getD index 0)
    if old.bytes.byte 0 ≠ flag then giveUp
    let standing := (List.range old.cells).map fun n => Source.on index (old.cellAt layout n)
    let place := (old.homeless[0]?.map (·.1)).getD 0
    if old.cells < place then giveUp
    let loose := old.homeless.toList.map fun (_, cell) => Source.loose cell
    for source in standing.take place ++ loose ++ standing.drop place do
      pile := pile.push layout source old.bytes
    ends := ends.push pile.size
    if kind ≠ .tableLeaf then
      if let some (size, cell) := siblings.dividers[index]? then
        if kind.isLeaf then
          pile := pile.pushSized (cell.part 4 (max (size - 4) Cell.minSize))
            (max (size - 4) Cell.minSize)
        else
          pile := pile.pushSized (cell.put 0 (old.bytes.part 8 4)) size
  return (pile, ends)

/-! ## Sharing out -/

/-- How cells are shared out: for each page where its cells end, and how many bytes they take. -/
structure Shares where
  ends : Array Nat
  loads : Array Int

namespace Shares

/-- Where the cells of a page end. -/
def endAt (shares : Shares) (n : Nat) : Nat := shares.ends.getD n 0

/-- What the cells of a page take. -/
def loadAt (shares : Shares) (n : Nat) : Int := shares.loads.getD n 0

/-- Sets where the cells of a page end. -/
def setEnd (shares : Shares) (n value : Nat) : Shares :=
  { shares with ends := shares.ends.setIfInBounds n value }

/-- Adds to what the cells of a page take. -/
def addLoad (shares : Shares) (n : Nat) (value : Int) : Shares :=
  { shares with loads := shares.loads.modify n (· + value) }

end Shares

/-- The greatest number of pages on which cells are shared out. -/
def maxShares : Nat := 5

/-- What a cell takes on a page, its place in the list included; nothing if there is none. -/
def Pile.costAt (pile : Pile) (n : Nat) : Int :=
  if n < pile.size then pile.sizeAt n + 2 else 0

/-- Moves cells from a page that is too full to the next one, which is added if there is none.
What is between the pages moves on, too. -/
def unload (pile : Pile) (room : Int) (index : Nat) :
    (rounds count : Nat) → Shares → Except SqlError (Nat × Shares)
  | 0, _, _ => .error .malformed
  | rounds + 1, count, shares =>
    if shares.loadAt index ≤ room then .ok (count, shares)
    else
      let count' := if index + 1 < count then count else index + 2
      if maxShares < count' then .error .malformed
      else
        let shares := if index + 1 < count then shares else
          { ends := shares.ends.setIfInBounds (index + 1) pile.size
            loads := shares.loads.setIfInBounds (index + 1) 0 }
        let stop := shares.endAt index
        let cost := pile.costAt (stop - 1)
        let taken := if pile.kind = .tableLeaf then cost else pile.costAt stop
        unload pile room index rounds count'
          (((shares.addLoad index (-cost)).addLoad (index + 1) taken).setEnd index (stop - 1))

/-- Moves cells from the next page to one as long as they fit. -/
def fill (pile : Pile) (room : Int) (index : Nat) : (rounds : Nat) → Shares → Shares
  | 0, shares => shares
  | rounds + 1, shares =>
    let stop := shares.endAt index
    let cost := pile.costAt stop
    if pile.size ≤ stop ∨ room < shares.loadAt index + cost then shares
    else
      let taken := if pile.kind = .tableLeaf then cost else pile.costAt (stop + 1)
      fill pile room index rounds
        (((shares.addLoad index cost).setEnd index (stop + 1)).addLoad (index + 1) (-taken))

/-- Packs the cells of each page from `index` on. -/
def pack (pile : Pile) (room : Int) :
    (rounds index count : Nat) → Shares → Except SqlError (Nat × Shares)
  | 0, _, count, shares => .ok (count, shares)
  | rounds + 1, index, count, shares =>
    if count ≤ index then .ok (count, shares)
    else do
      let (count, shares) ← unload pile room index (2 * pile.size + 4) count shares
      let shares := fill pile room index (pile.size + 1) shares
      let before := if index = 0 then 0 else shares.endAt (index - 1)
      if pile.size ≤ shares.endAt index then pack pile room rounds (index + 1) (index + 1) shares
      else if shares.endAt index ≤ before then .error .malformed
      else pack pile room rounds (index + 1) count shares

/-- Moves cells from a page to the next one, from the last on, until both are about equal. -/
def even (pile : Pile) (index : Nat) (isLast : Bool) :
    (left : Nat) → (share : Nat) → (low high : Int) → Nat × Int × Int
  | 0, share, low, high => (share, low, high)
  | left + 1, share, low, high =>
    let divider := if pile.kind = .tableLeaf then left else left + 1
    let cost : Int := pile.sizeAt left
    let gained : Int := pile.sizeAt divider
    if high ≠ 0 ∧ low - (cost + if isLast then 0 else 2) < high + gained + 2 then
      (share, low, high)
    else even pile index isLast left left (low - (cost + 2)) (high + gained + 2)

/-- Evens out pages from the last to the first. -/
def evenAll (pile : Pile) (count : Nat) : (index : Nat) → Shares → Except SqlError Shares
  | 0, shares => .ok shares
  | index + 1, shares =>
    let share := shares.endAt index
    let (share, low, high) :=
      even pile index (index + 2 = count) share share (shares.loadAt index)
        (shares.loadAt (index + 1))
    let before := if index = 0 then 0 else shares.endAt (index - 1)
    if share ≤ before then .error .malformed
    else
      evenAll pile count index
        { ends := shares.ends.setIfInBounds index share
          loads := (shares.loads.setIfInBounds index low).setIfInBounds (index + 1) high }

/-- Shares cells out to as many pages as they need; `free` are the free bytes of the pages. -/
def shareOut (pile : Pile) (room : Int) (ends : Array Nat) (loads : Array Int) :
    Except SqlError (Nat × Shares) := do
  let shares : Shares :=
    { ends := ends ++ Array.replicate (maxShares + 2 - ends.size) 0
      loads := loads ++ Array.replicate (maxShares + 2 - loads.size) 0 }
  let (count, shares) ← pack pile room (maxShares + 1) 0 ends.size shares
  return (count, ← evenAll pile count (count - 1) shares)

/-! ## Pages to share on -/

/-- Exchanges two pages. -/
def exchange (a b : Nat) : Act Unit := do
  let first ← page a
  let second ← page b
  setPage a second
  setPage b first

/-- Puts pages into the order of their numbers. -/
def sortPages (numbers : Array Nat) : Act (Array Nat) := do
  let mut numbers := numbers
  for i in List.range numbers.size do
    let later := (List.range numbers.size).drop i
    let least := later.foldl
      (fun least j => if numbers.getD j 0 < numbers.getD least 0 then j else least) i
    if least ≠ i then
      let a := numbers.getD i 0
      let b := numbers.getD least 0
      exchange a b
      numbers := (numbers.setIfInBounds i b).setIfInBounds least a
  return numbers

/-- The pages on which cells are shared out: those that shared before, and new ones. Nobody but
the cursor may rest on the page at `current`, and nobody at all on the others. -/
def preparePages (parent : Nat) (old : Array Nat) (kind : PageKind) (count current : Nat) :
    Act (Array Nat) := do
  let mut numbers : Array Nat := #[]
  let mut near := old.getD 0 0
  for index in List.range count do
    match old[index]? with
    | some number =>
      touch number
      let held := old.toList.count number + (← pins number)
      if held ≠ 1 + if index = current then 1 else 0 then giveUp
      numbers := numbers.push number
    | none =>
      let wish := near
      let number ← pinning (old ++ numbers).toList (allocate (.near wish))
      format number kind
      ifRegistered (register number .child parent)
      numbers := numbers.push number
      near := number
  return numbers

/-! ## Moving cells -/

/-- Registers what cells refer to that go to another page than they were on. `sorted` are the
pages in their order, and `unsorted` the numbers that they had before. -/
def registerMoved (pile : Pile) (ends : Array Nat) (shares : Shares)
    (sorted unsorted : Array Nat) : Act Unit := do
  let keepsDividers := pile.kind ≠ .tableLeaf
  let mut old := 0
  let mut new := 0
  for n in List.range pile.size do
    for _ in List.range ends.size do
      if n = ends.getD old 0 ∧ old + 1 < ends.size then old := old + 1
    let isDivider := n = shares.endAt new
    if isDivider then new := new + 1
    if isDivider ∧ keepsDividers then continue
    let target := sorted.getD new 0
    let stays :=
      old < sorted.size && target = unsorted.getD old 0 && (pile.positionOn? old n).isSome
    unless stays do
      let cell ← pile.fetch n
      unless pile.kind.isLeaf do register (cell.number 0 4) .child target
      if (← get).layout.minInner < pile.sizeAt n then
        if pile.sticksOut (← get).layout n then giveUp
        registerOverflow target pile.kind cell 0

/-- The cell that goes between a page and the next one to the page above. -/
def dividerFor (pile : Pile) (number stop : Nat) (parentKind : PageKind) : Act Block := do
  let layout := (← get).layout
  let link := Block.ofNumber 4 number
  if pile.kind = .tableLeaf then
    let cell ← pile.fetch (stop - 1)
    let key := (Cell.read layout pile.kind cell 0).key
    return link ++ Block.ofVarint (Block.unsigned 64 key)
  else
    let cell ← pile.fetch stop
    if pile.sticksOut layout stop then giveUp
    if !pile.kind.isLeaf then
      alter number (·.put 8 (cell.part 0 4))
      return link ++ cell.extract 4 cell.size
    else
      let whole := link ++ cell
      let size :=
        if cell.size = Cell.minSize then (Cell.read layout parentKind whole 0).size
        else whole.size
      return whole.part 0 size

/-- Writes the cells to their pages: first, from the last page to the first, to those that do not
wait for the page before them, then to the others. -/
def writeShares (pile : Pile) (room : Int) (ends : Array Nat) (shares : Shares)
    (numbers : Array Nat) : Act Unit := do
  let gap := if pile.kind = .tableLeaf then 0 else 1
  let count := numbers.size
  let downward := ((List.range count).drop 1).reverse.filter fun n =>
    shares.endAt (n - 1) ≤ ends.getD (n - 1) pile.size
  let upward := (List.range count).filter fun n => !downward.contains n
  for n in downward ++ upward do
    let number := numbers.getD n 0
    let old := if n = 0 then 0 else if n < ends.size then ends.getD (n - 1) 0 + gap else pile.size
    let new := if n = 0 then 0 else shares.endAt (n - 1) + gap
    reshape pile n old new (shares.endAt n - new) number
    let load := shares.loadAt n
    change number fun page => { page with free? := some (room - load).toNat }

/-- Copies a page of a tree to another page. -/
def copyPage (source target : Nat) : Act Unit := do
  let layout := (← get).layout
  let old ← page source
  let start := old.bytes.number (old.head + 5) 2
  change target fun page =>
    { page.mapBytes fun bytes =>
        (bytes.put start (old.bytes.extract start layout.usable)).put page.head
          (old.bytes.extract old.head (old.head + old.listEnd)) with
      isChecked := false, free? := none, homeless := #[] }
  let _ ← check target
  let _ ← countedPage target
  ifRegistered (registerLinks target)

/-- Shares the cells of the page at `index` under a page with those beside it. -/
def redistribute (parent index : Nat) (isRoot : Bool) : Act Unit := do
  let layout := (← get).layout
  let siblings ← findSiblings parent index
  let old := siblings.numbers
  let (pile, ends) ← collect siblings
  let kind := pile.kind
  let room : Int := layout.usable - if kind.isLeaf then 8 else 12
  let mut loads : Array Int := #[]
  for number in old do
    let found ← page number
    let extra := found.homeless.foldl
      (fun sum (_, cell) => sum + 2 + (Cell.read layout found.kind cell 0).size) 0
    loads := loads.push (room - found.knownFree + extra)
  let (count, shares) ← MonadExcept.ofExcept (shareOut pile room ends loads)
  let unsorted ← preparePages parent old kind count (index - siblings.first)
  let ends := ends ++ Array.replicate (count - ends.size) pile.size
  let numbers ← sortPages unsorted
  let pile := { pile with
    numbers := numbers ++ pile.numbers.extract numbers.size pile.numbers.size }
  let last := numbers.getD (count - 1) 0
  alter parent (·.setNumber siblings.lastAt 4 last)
  if !kind.isLeaf ∧ old.size ≠ count then
    let link := (← page (pile.numbers.getD (old.size - 1) 0)).bytes.part 8 4
    alter last (·.put 8 link)
  let oldEnds := ends.extract 0 old.size
  ifRegistered (registerMoved pile oldEnds shares numbers unsorted)
  let parentKind := (← page parent).kind
  for n in List.range (count - 1) do
    let divider ← dividerFor pile (numbers.getD n 0) (shares.endAt n) parentKind
    place parent (siblings.first + n) divider
  writeShares pile room oldEnds shares numbers
  let above ← page parent
  let first := numbers.getD 0 0
  if isRoot ∧ above.cells = 0 ∧ above.head ≤ (← page first).knownFree then
    onPage first (Page.defragment layout (-1))
    copyPage first parent
    free first
  else if !kind.isLeaf then
    ifRegistered do
      for number in numbers do
        register (← page number).lastLink .child number
  for number in old.extract count old.size do
    free number

/-! ## Other ways -/

/-- Puts a row that comes behind all others to a page of its own. -/
def appendPage (parent number : Nat) : Act Unit := do
  let layout := (← get).layout
  let full ← page number
  if full.cells = 0 then giveUp
  let added ← pinning [number] (allocate (.near 0))
  let cell := (full.homeless[0]?.map (·.2)).getD #[]
  format added .tableLeaf
  change added fun page =>
    { page.mapBytes fun bytes =>
        ((bytes.setNumber page.listAt 2 (layout.usable - cell.size)).put
          (layout.usable - cell.size) cell |>.setNumber 3 2 1).setNumber 5 2
            (layout.usable - cell.size) with
      free? := some (layout.usable - page.listAt - 2 - cell.size) }
  ifRegistered do
    register added .child parent
    if layout.minInner < cell.size then registerOverflow added .tableLeaf cell 0
  let key := (full.cell layout (full.cells - 1)).key
  place parent (← page parent).cells
    (Block.ofNumber 4 number ++ Block.ofVarint (Block.unsigned 64 key))
  alter parent fun bytes => bytes.setNumber ((if parent = 1 then 100 else 0) + 8) 4 added

/-- Moves the cells of a root that runs over to a new page under it. -/
def deepen (root : Nat) : Act Nat := do
  let layout := (← get).layout
  touch root
  let child ← pinning [root] (allocate (.near root))
  let full ← page root
  copyPage root child
  ifRegistered (register child .child root)
  change child fun page => { page with homeless := full.homeless }
  change root (·.emptied layout full.kind.inner)
  alter root (·.setNumber (full.head + 8) 4 child)
  return child

/-- Brings a tree back into shape from the page of a cursor up, in at most `rounds` steps. -/
def balanceFrom : (rounds : Nat) → Cursor → Act Cursor
  | 0, cursor => return cursor
  | rounds + 1, cursor => do
    let layout := (← get).layout
    let page ← countedPage cursor.page
    if page.homeless.isEmpty ∧ page.knownFree * 3 ≤ layout.usable * 2 then return cursor
    match cursor.path.back? with
    | none =>
      if page.homeless.isEmpty then return cursor
      let child ← deepen cursor.page
      balanceFrom rounds { cursor with path := #[(cursor.page, 0)], page := child, place := 0 }
    | some (parent, index) =>
      pinning cursor.pages do
        if (← pins cursor.page) ≠ 1 then giveUp
        touch parent
        let above ← countedPage parent
        let isBehind := page.kind = .tableLeaf ∧ page.homeless.size = 1 ∧
          page.homeless.all (·.1 = page.cells)
        if isBehind ∧ parent ≠ 1 ∧ above.cells = index then appendPage parent cursor.page
        else redistribute parent index (cursor.path.size = 1)
      change cursor.page fun page => { page with homeless := #[] }
      balanceFrom rounds { cursor.toParent with key? := none }

/-- Brings a tree back into shape from the page of a cursor up. -/
def balance (cursor : Cursor) : Act Cursor := balanceFrom (2 * Cursor.downward) cursor

end Volume
end AppCatalog
