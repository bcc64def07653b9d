import AppCatalog.Database.Error
import AppCatalog.Pages.Block

/-!
# The layout of a database file

A database file is a row of pages of equal size, numbered from one. The first page starts with a
header, which says how large the pages are, how many of them count, which of them are free, and
how texts are written. What the header claims is checked before anything else is read.
-/

namespace AppCatalog

/-- What holds for all pages of a file. -/
structure Layout where
  pageSize : Nat
  /-- The number of bytes of a page that hold content. -/
  usable : Nat
  /-- Whether pages that fall free are given back, so that each page is registered with the page
  that refers to it. -/
  registered : Bool
  /-- Whether free pages are given back only when somebody asks for it. -/
  onDemand : Bool
  deriving Repr, DecidableEq

namespace Layout

/-! ## Positions in the header -/

/-- The number of bytes of the header. -/
def headerSize : Nat := 100

/-- Where the version for writers stands. -/
def writeVersionAt : Nat := 18

/-- Where the version for readers stands. -/
def readVersionAt : Nat := 19

/-- Where changes of the file are counted. -/
def changesAt : Nat := 24

/-- Where the number of pages stands. -/
def pageCountAt : Nat := 28

/-- Where the first page of the list of free pages stands. -/
def firstFreeAt : Nat := 32

/-- Where the number of free pages stands. -/
def freeCountAt : Nat := 36

/-- Where a number of the database's own stands: the version of the schema is the first of
them. -/
def metaAt (n : Nat) : Nat := 40 + 4 * n

/-- Where changes of the schema are counted. -/
def schemaCookieAt : Nat := metaAt 0

/-- Where the format of rows stands. -/
def rowFormatAt : Nat := metaAt 1

/-- Where the greatest page that is the root of a tree stands. -/
def greatestRootAt : Nat := metaAt 3

/-- Where the number stands that says how texts are written. -/
def encodingAt : Nat := metaAt 4

/-- Where it stands whether free pages are given back on demand only. -/
def onDemandAt : Nat := metaAt 6

/-- Where it stands at which change the number of pages was written. -/
def countedAt : Nat := 92

/-- Where the version of the last writer stands. -/
def writerAt : Nat := 96

/-- The version that this library writes. -/
def writer : Nat := 3046000

/-! ## Reading the header -/

/-- The bytes with which every database file starts. -/
def magic : Bytes := Utf8.encode "SQLite format 3" ++ [0]

/-- The numbers of bytes that a page can have. -/
def pageSizes : List Nat := [512, 1024, 2048, 4096, 8192, 16384, 32768, 65536]

/-- The least number of bytes of a page that hold content. -/
def leastUsable : Nat := 480

/-- The greatest version of the format that is understood. -/
def maxVersion : Nat := 2

/-- The number of pages of that size in a file, the last of which may be cut off. -/
def pagesIn (pageSize size : Nat) : Nat := (size + pageSize - 1) / pageSize

/-- The size of pages that a header gives. -/
def pageSizeOf (data : Block) : Nat :=
  data.byte 16 * 256 + data.byte 17 * 65536

/-- Reads the header of a file that is not empty, and the number of pages that count. The number
that the header gives counts only if the program that changed the file last wrote it too. -/
def ofHeader (data : Block) : Except SqlError (Layout × Nat) :=
  let pageSize := pageSizeOf data
  let usable := pageSize - data.byte 20
  let present := pagesIn pageSize data.size
  let claimed := data.number pageCountAt 4
  let isCounted := claimed ≠ 0 ∧ data.number changesAt 4 = data.number countedAt 4
  let pages := if isCounted then claimed else present
  if (data.extract 0 16).toList ≠ magic then .error .notADatabase
  else if maxVersion < data.byte readVersionAt then .error .notADatabase
  else if (data.extract 21 24).toList ≠ [64, 32, 32] then .error .notADatabase
  else if pageSize ∉ pageSizes then .error .notADatabase
  else if present < pages then .error .malformed
  else if usable < leastUsable then .error .notADatabase
  else
    let registered := data.number greatestRootAt 4 ≠ 0
    .ok ({ pageSize, usable, registered, onDemand := data.number onDemandAt 4 ≠ 0 }, pages)

/-! ## Limits -/

/-- The greatest number of bytes of a record that stand in a node of an index. -/
def maxIndexed (layout : Layout) : Nat := (layout.usable - 12) * 64 / 255 - 23

/-- The greatest number of bytes of a record that stand in a node of a table. -/
def maxStored (layout : Layout) : Nat := layout.usable - 35

/-- The least number of bytes that stand in a node if not all do. -/
def minInner (layout : Layout) : Nat := (layout.usable - 12) * 32 / 255 - 23

/-- The greatest length of a record of an index that is written as one byte. -/
def maxShort (layout : Layout) : Nat := min 127 layout.maxIndexed

/-- The greatest number of cells that a page can hold. -/
def maxCells (layout : Layout) : Nat := (layout.pageSize - 8) / 6

/-- The number of bytes of content of a page that continues a record. -/
def chunk (layout : Layout) : Nat := layout.usable - 4

/-! ## The register of pages -/

/-- The page with the register that a page is in; zero for the first page. -/
def registerOf (layout : Layout) (page : Nat) : Nat :=
  if page < 2 then 0
  else
    let covered := layout.usable / 5 + 1
    (page - 2) / covered * covered + 2

/-- Whether a page holds a part of the register. -/
def isRegister (layout : Layout) (page : Nat) : Bool := layout.registerOf page = page

end Layout
end AppCatalog
