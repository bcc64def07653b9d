import AppCatalog.Pages.Layout

/-!
# Pages of a tree

A page of a tree starts with a head, which says what kind of page it is and how many cells it
has, followed by the positions of its cells. The cells stand at the other end of the page. A cell
of a table holds a row and its number, one of an index a record; above the leaves each cell starts
with the page under it. What does not fit into a page goes on in other pages.
-/

namespace AppCatalog

/-- What a page of a tree holds. -/
inductive PageKind where
  | tableLeaf
  | tableInner
  | indexLeaf
  | indexInner
  deriving Repr, DecidableEq

namespace PageKind

/-- The byte that stands for a kind. -/
def code : PageKind → Nat
  | tableLeaf => 13
  | tableInner => 5
  | indexLeaf => 10
  | indexInner => 2

/-- The kind that a byte stands for. -/
def ofCode? (code : Nat) : Option PageKind :=
  if code = 13 then some tableLeaf
  else if code = 5 then some tableInner
  else if code = 10 then some indexLeaf
  else if code = 2 then some indexInner
  else none

/-- A kind is read back from its byte. -/
theorem ofCode?_code (kind : PageKind) : ofCode? kind.code = some kind := by
  cases kind <;> rfl

/-- Whether no pages are under a page of this kind. -/
def isLeaf : PageKind → Bool
  | tableLeaf => true
  | indexLeaf => true
  | _ => false

/-- Whether cells have numbers. -/
def isTable : PageKind → Bool
  | tableLeaf => true
  | tableInner => true
  | _ => false

/-- The kind of a leaf of the same tree. -/
def leaf : PageKind → PageKind
  | tableInner => tableLeaf
  | indexInner => indexLeaf
  | kind => kind

/-- The kind of a page above the leaves of the same tree. -/
def inner : PageKind → PageKind
  | tableLeaf => tableInner
  | indexLeaf => indexInner
  | kind => kind

/-- The number of bytes with which a cell refers to a page under it. -/
def linkSize (kind : PageKind) : Nat := if kind.isLeaf then 0 else 4

/-- The greatest number of bytes of a record that stand in a cell. -/
def maxInner (kind : PageKind) (layout : Layout) : Nat :=
  if kind.isTable then layout.maxStored else layout.maxIndexed

end PageKind

/-! ## Cells -/

/-- Where the parts of a cell are. -/
structure Cell where
  /-- The number of a row, or the length of a record of an index. -/
  key : Int
  /-- The length of the record. -/
  length : Nat
  /-- The number of bytes of the record that stand in the cell. -/
  inner : Nat
  /-- Where the record starts. -/
  content : Nat
  /-- The number of bytes of the cell. -/
  size : Nat
  deriving Repr, DecidableEq

namespace Cell

/-- The least number of bytes of a cell. -/
def minSize : Nat := 4

/-- Whether the record goes on in other pages. -/
def overflows (cell : Cell) : Bool := cell.inner ≠ cell.length

/-- The number of bytes of a record of that length that stand in its cell. -/
def innerOf (layout : Layout) (kind : PageKind) (length : Nat) : Nat :=
  let most := kind.maxInner layout
  let fitting := layout.minInner + (length - layout.minInner) % layout.chunk
  if length ≤ most then length else if fitting ≤ most then fitting else layout.minInner

/-- The cell with a record of that length, which starts `front` bytes behind the cell. -/
def withRecord (layout : Layout) (kind : PageKind) (key : Int) (length position front : Nat) :
    Cell :=
  let inner := innerOf layout kind length
  let size := front + inner + if inner = length then 0 else 4
  { key, length, inner, content := position + front, size := max size minSize }

/-- Reads the cell at a position. -/
def read (layout : Layout) (kind : PageKind) (block : Block) (position : Nat) : Cell :=
  match kind with
  | .tableInner =>
    let (key, stop) := block.varint (position + 4)
    { key := Block.signed 64 key, length := 0, inner := 0, content := stop,
      size := stop - position }
  | .tableLeaf =>
    let (length, start) := block.length position
    let (key, stop) := block.varint start
    withRecord layout kind (Block.signed 64 key) length position (stop - position)
  | .indexLeaf =>
    let (length, stop) := block.length position
    withRecord layout kind length length position (stop - position)
  | .indexInner =>
    let (length, stop) := block.length (position + 4)
    withRecord layout kind length length position (stop - position)

end Cell

/-! ## Pages -/

/-- A page of a database file. -/
structure Page where
  /-- Where the head starts: behind the header of the file on the first page. -/
  head : Nat
  bytes : Block
  /-- Whether the head was checked since the page was taken for a page of a tree. -/
  isChecked : Bool := false
  /-- The number of free bytes, if they were counted. -/
  free? : Option Nat := none
  /-- Cells for which there is no room, each with its place among all cells. -/
  homeless : Array (Nat × Block) := #[]

namespace Page

/-- A page of zeros. -/
def blank (layout : Layout) (number : Nat) : Page where
  head := if number = 1 then Layout.headerSize else 0
  bytes := Block.zeros layout.pageSize

/-- What the page holds according to its head. -/
def kind? (page : Page) : Option PageKind := PageKind.ofCode? (page.bytes.byte page.head)

/-- What a page of a tree holds. -/
def kind (page : Page) : PageKind := page.kind?.getD .tableLeaf

/-- Whether there are no pages under a page. -/
def isLeaf (page : Page) : Bool := page.kind.isLeaf

/-- The number of cells that stand on a page. -/
def cells (page : Page) : Nat := page.bytes.number (page.head + 3) 2

/-- The number of cells of a page, those without room included. -/
def allCells (page : Page) : Nat := page.cells + page.homeless.size

/-- Where the list of cells starts. -/
def listAt (page : Page) : Nat := page.head + 8 + page.kind.linkSize

/-- Where the list of cells ends. -/
def listEnd (page : Page) : Nat := page.listAt + 2 * page.cells

/-- What the list of cells says about the position of one. -/
def listed (page : Page) (n : Nat) : Nat := page.bytes.number (page.listAt + 2 * n) 2

/-- The position of a cell; it is on the page whatever the list says. -/
def cellAt (page : Page) (layout : Layout) (n : Nat) : Nat := page.listed n % layout.pageSize

/-- A cell of a page. -/
def cell (page : Page) (layout : Layout) (n : Nat) : Cell :=
  Cell.read layout page.kind page.bytes (page.cellAt layout n)

/-- The page under a page behind all its cells. -/
def lastLink (page : Page) : Nat := page.bytes.number (page.head + 8) 4

/-- The page under a page before a cell, or behind all of them. -/
def link (page : Page) (layout : Layout) (n : Nat) : Nat :=
  if page.cells ≤ n then page.lastLink else page.bytes.number (page.cellAt layout n) 4

/-- The page with other bytes. -/
def mapBytes (page : Page) (f : Block → Block) : Page :=
  match page with
  | ⟨head, bytes, isChecked, free?, homeless⟩ => ⟨head, f bytes, isChecked, free?, homeless⟩

/-- A page of a tree without cells. -/
def emptied (page : Page) (layout : Layout) (kind : PageKind) : Page :=
  let head := page.head
  let bytes := (page.bytes.setByte head kind.code).setNumber (head + 1) 4 0
  { head
    bytes := (bytes.setNumber (head + 5) 2 layout.usable).setByte (head + 7) 0
    isChecked := true
    free? := some (layout.usable - (head + 8 + kind.linkSize))
    homeless := #[] }

/-- Whether the head is one of a page of a tree. -/
def isSound (page : Page) (layout : Layout) : Bool :=
  page.kind?.isSome && page.cells ≤ layout.maxCells

/-! ## Counting free bytes -/

/-- Where the cells start; the greatest position does not fit into two bytes. -/
def contentAt (page : Page) : Nat :=
  match page.bytes.number (page.head + 5) 2 with
  | 0 => 65536
  | position => position

/-- Adds up gaps from one at `position`, each behind the one before; the last ends on the page. -/
def gapsFrom (page : Page) (layout : Layout) : (rounds position total : Nat) → Option Nat
  | 0, _, _ => none
  | rounds + 1, position, total =>
    if layout.usable - 4 < position then none
    else
      let next := page.bytes.number position 2
      let size := page.bytes.number (position + 2) 2
      if position + size + 3 < next then gapsFrom page layout rounds next (total + size)
      else if 0 < next ∨ layout.usable < position + size then none
      else some (total + size)

/-- The number of free bytes, if the page is in order. -/
def countFree (page : Page) (layout : Layout) : Option Nat :=
  let first := page.bytes.number (page.head + 1) 2
  let start := page.bytes.byte (page.head + 7) + page.contentAt
  let total? :=
    if first = 0 then some start
    else if first < page.contentAt then none
    else page.gapsFrom layout layout.usable first start
  total?.bind fun total =>
    if layout.usable < total ∨ total < page.listEnd then none else some (total - page.listEnd)

end Page
end AppCatalog
