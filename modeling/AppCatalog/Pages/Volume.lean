import AppCatalog.Pages.Space

/-!
# Volumes

The pages of a database file while statements work on it. Whatever does not fit together is
reported as malformed where it is met; nothing is checked ahead of that. Pages that somebody
rests on are pinned, so that one that is taken for free while it is in use is noticed.
-/

namespace AppCatalog

/-- The pages of a database file. -/
structure Volume where
  layout : Layout
  /-- The pages that are there. -/
  pages : Array Page
  /-- The number of pages that count. -/
  count : Nat
  /-- How many bytes the file has; its last page may be cut off. -/
  size : Nat
  /-- Whether the file is of a kind that may be changed, and may be changed here. -/
  writable : Bool
  /-- Why nothing can be written although it may be. -/
  obstacle? : Option SqlError := none
  /-- Whether something was written. -/
  written : Bool := false
  /-- Whether pages behind the last one that counts are to be cut off. -/
  shortened : Bool := false
  /-- The pages on which cursors rest, one time for each of them. -/
  pinned : List Nat := []
  /-- The pages of a record that were come by, as long as none is written. -/
  trail : Array Nat := #[]

namespace Volume

/-- What is done on a volume: it stays changed whether that succeeds or not. -/
abbrev Act : Type → Type := ExceptT SqlError (StateM Volume)

/-- Does something on a volume. -/
def Act.runOn {α : Type} (act : Act α) (volume : Volume) : Except SqlError α × Volume :=
  (ExceptT.run act).run volume

/-- The greatest page that is kept; a reference to one behind it cannot be meant. -/
def maxPage : Nat := 1 <<< 20

/-- Gives up on a file that does not fit together. -/
def giveUp {α : Type} : Act α := throw .malformed

/-- The pages of a file, and the number of them that count. -/
def ofBlock (data : Block) (writable : Bool) : Except SqlError Volume := do
  let (layout, count) ← Layout.ofHeader data
  let page (n : Nat) : Page :=
    { Page.blank layout (n + 1) with
      bytes := data.part (n * layout.pageSize) layout.pageSize }
  let present := Layout.pagesIn layout.pageSize data.size
  return {
    layout, count
    size := data.size
    pages := (Array.range present).map page
    writable := writable && data.byte Layout.writeVersionAt ≤ Layout.maxVersion }

/-- The bytes of the pages. -/
def toBlock (volume : Volume) : Block :=
  (volume.pages.foldl (fun data page => data ++ page.bytes) #[]).extract 0 volume.size

/-! ## Pages -/

/-- A page. One that is not there holds zeros. -/
def page (number : Nat) : Act Page := do
  let volume ← get
  if number = 0 then giveUp
  else return volume.pages.getD (number - 1) (.blank volume.layout number)

/-- Something that the first page says. -/
def header (position count : Nat) : Act Nat :=
  return (← page 1).bytes.number position count

/-- Asks for the right to write a page, and notes that it is written. -/
def touch (number : Nat) : Act Unit := do
  let volume ← get
  if number = 0 ∨ maxPage < number then giveUp
  if let some cause := volume.obstacle? then throw cause
  let missing := (List.range number).drop volume.pages.size
  modify fun volume =>
    { volume with
      written := true
      size := max volume.size (number * volume.layout.pageSize)
      trail := #[]
      pages := missing.foldl (fun pages n => pages.push (.blank volume.layout (n + 1)))
        volume.pages }

/-- Puts a page in its place. -/
def setPage (number : Nat) (page : Page) : Act Unit :=
  modify fun volume => { volume with pages := volume.pages.setIfInBounds (number - 1) page }

/-- Changes a page that was touched. -/
def change (number : Nat) (f : Page → Page) : Act Unit :=
  modify fun volume => { volume with pages := volume.pages.modify (number - 1) f }

/-- Changes the bytes of a page that was touched. -/
def alter (number : Nat) (f : Block → Block) : Act Unit :=
  change number (·.mapBytes f)

/-- Works on a page that was touched; it stays changed whether that succeeds or not. -/
def onPage {α : Type} (number : Nat) (edit : Page.Edit α) : Act α := do
  let page ← page number
  setPage number (.blank (← get).layout number)
  let (result, page) := (ExceptT.run edit).run page
  setPage number page
  MonadExcept.ofExcept result

/-! ## Pages of trees -/

/-- Takes a page for a page of a tree. -/
def check (number : Nat) : Act Page := do
  let found ← page number
  if found.isChecked then return found
  else if found.isSound (← get).layout then
    let checked := { found with isChecked := true, free? := none, homeless := #[] }
    setPage number checked
    return checked
  else giveUp

/-- A page of a tree, which must be one of those that count. -/
def treePage (number : Nat) : Act Page := do
  if (← get).count < number then giveUp
  check number

/-- A page of a tree whose free bytes are counted. -/
def countedPage (number : Nat) : Act Page := do
  let found ← check number
  if found.free?.isSome then return found
  else
    match found.countFree (← get).layout with
    | none => giveUp
    | some count =>
      let counted := { found with free? := some count }
      setPage number counted
      return counted

/-- Empties a page that was touched, for a tree. -/
def format (number : Nat) (kind : PageKind) : Act Unit := do
  let layout := (← get).layout
  change number (·.emptied layout kind)

/-! ## Pins -/

/-- How often a page is pinned; somebody always rests on the first one. -/
def pins (number : Nat) : Act Nat :=
  return (← get).pinned.count number + if number = 1 then 1 else 0

/-- Does something while pages are pinned. -/
def pinning {α : Type} (numbers : List Nat) (act : Act α) : Act α := do
  let before := (← get).pinned
  modify fun volume => { volume with pinned := numbers ++ before }
  let result ← act
  modify fun volume => { volume with pinned := before }
  return result

/-! ## The register of pages -/

/-- What a page that is registered is used for. -/
inductive Use where
  | root
  | free
  /-- The first page that continues a record. -/
  | overflow
  /-- Another page that continues a record. -/
  | continuation
  | child
  deriving Repr, DecidableEq

namespace Use

/-- The byte that stands for a use. -/
def code : Use → Nat
  | root => 1
  | free => 2
  | overflow => 3
  | continuation => 4
  | child => 5

/-- The use that a byte stands for. -/
def ofCode? (code : Nat) : Option Use :=
  [root, free, overflow, continuation, child].find? (·.code = code)

/-- A use is read back from its byte. -/
theorem ofCode?_code (use : Use) : ofCode? use.code = some use := by
  cases use <;> rfl

end Use

/-- Where the register tells about a page: the page of the register and the position there. -/
def entryOf (number : Nat) : Act (Nat × Nat) := do
  let register := (← get).layout.registerOf number
  if number ≤ register then giveUp
  else return (register, 5 * (number - register - 1))

/-- What the register says about a page: its use and the page that refers to it. -/
def registered (number : Nat) : Act (Use × Nat) := do
  let (register, position) ← entryOf number
  let bytes := (← page register).bytes
  match Use.ofCode? (bytes.byte position) with
  | some use => return (use, bytes.number (position + 1) 4)
  | none => giveUp

/-- Registers a page. What no page of the register that counts tells about is not kept. -/
def register (number : Nat) (use : Use) (parent : Nat) : Act Unit := do
  if number = 0 then giveUp
  let (register, position) ← entryOf number
  if (← get).count < register then return
  let found ← page register
  if found.isChecked then giveUp
  let bytes := found.bytes
  unless bytes.byte position = use.code && bytes.number (position + 1) 4 = parent do
    touch register
    alter register fun bytes =>
      (bytes.setByte position use.code).setNumber (position + 1) 4 parent

/-- Does something if pages are registered. -/
def ifRegistered (act : Act Unit) : Act Unit := do
  if (← get).layout.registered then act

end Volume
end AppCatalog
