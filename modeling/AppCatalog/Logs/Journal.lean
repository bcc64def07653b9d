import AppCatalog.Pages.Layout

/-!
# Journals

A journal holds the pages of a database file as they were before a change, so that a change that
was cut off can be taken back: the file gets the size that it had, and the pages go back to their
places. A journal consists of segments, each with a head that says how many pages follow; the head
of the first also gives the sizes of everything. A page whose checksum is wrong was not written to
the end, and ends its segment.

The change may have been one of several files. Then the journal ends with the name of a file that
lists their journals, and counts only as long as that file is there.
-/

namespace AppCatalog
namespace Journal

/-! ## Heads -/

/-- The bytes with which a head starts. -/
def magic : Block := #[0xD9, 0xD5, 0x05, 0xF9, 0x20, 0xA1, 0x63, 0xD7]

/-- The number of bytes from one possible place of a head to the next, until a head says so. -/
def usualSector : Nat := 512

/-- Whether a number is two to some power. -/
def isPower (n : Nat) : Bool := n ≠ 0 && 1 <<< n.log2 = n

/-- The least and the greatest number of bytes from one place of a head to the next. -/
def isSector (n : Nat) : Bool := 32 ≤ n && n ≤ 0x10000 && isPower n

/-- Whether a page can have that number of bytes. -/
def isPageSize (n : Nat) : Bool := 512 ≤ n && n ≤ 0x10000 && isPower n

/-- What a journal is played back to, and how. -/
structure Playback where
  /-- The file. -/
  data : Block
  pageSize : Nat
  sector : Nat := usualSector
  /-- The number of pages that the file had. -/
  limit : Nat := 0

/-- What a head says: how many pages follow, what their checksums start with, and how many pages the
file had. -/
structure Head where
  count : Nat
  nonce : Nat
  pages : Nat

/-- The first place of a head that is not before a position. -/
def headFrom (sector position : Nat) : Nat := (position + sector - 1) / sector * sector

/-- The head at a position, if there is one. -/
def head? (journal : Block) (sector position : Nat) : Option Head :=
  if journal.size < position + sector ∨ journal.part position 8 ≠ magic then none
  else some {
    count := journal.number (position + 8) 4
    nonce := journal.number (position + 12) 4
    pages := journal.number (position + 16) 4 }

/-! ## Pages -/

/-- The position of the byte that locks are taken on; its page holds nothing. -/
def lockPosition : Nat := 0x40000000

/-- The positions of a page that its checksum is made of. -/
def summed (pageSize : Nat) : List Nat :=
  ((List.range (pageSize / 200 + 1)).filter fun n => 200 * (n + 1) < pageSize).map
    fun n => pageSize - 200 * (n + 1)

/-- The checksum of a page. -/
def checksum (nonce : Nat) (page : Block) : Nat :=
  (summed page.size).foldl (fun total position => total + page.byte position) nonce
    % (Block.maxWord + 1)

/-- A file with bytes at a position, behind its end as well. -/
def write (data : Block) (position : Nat) (bytes : Block) : Block :=
  let stop := position + bytes.size
  let data := if data.size < stop then data ++ Block.zeros (stop - data.size) else data
  data.put position bytes

/-- The greatest number of bytes to which a file is made longer ahead of its pages. -/
def maxSize : Nat := 1 <<< 26

/-- A file with so many pages; one that lacks less than a page stays as it is. -/
def resize (data : Block) (pageSize count : Nat) : Block :=
  let size := pageSize * count
  if size < data.size then data.extract 0 size
  else if data.size + pageSize ≤ size ∧ size ≤ maxSize then
    data ++ Block.zeros (size - data.size)
  else data

/-- How a segment ends. -/
inductive SegmentEnd where
  /-- Behind its last page. -/
  | finished (position : Nat)
  /-- With a page that was not written to the end. -/
  | broken
  /-- In the midst of a page. -/
  | cut

/-- Puts the pages of a segment back, from a position on. -/
def putBack (journal : Block) (nonce : Nat) :
    (count position : Nat) → Playback → SegmentEnd × Playback
  | 0, position, playback => (.finished position, playback)
  | count + 1, position, playback =>
    let size := playback.pageSize
    let next := position + size + 8
    let number := journal.number position 4
    if journal.size < position + 4 + size then (.cut, playback)
    else if number = 0 ∨ number = lockPosition / size + 1 then (.broken, playback)
    else if playback.limit < number then putBack journal nonce count next playback
    else if journal.size < next then (.cut, playback)
    else
      let page := journal.part (position + 4) size
      if checksum nonce page ≠ journal.number (next - 4) 4 then (.broken, playback)
      else
        let data := write playback.data ((number - 1) * size) page
        putBack journal nonce count next { playback with data }

/-! ## Segments -/

/-- The count that stands for as many pages as there are. -/
def uncounted : Nat := 0xFFFFFFFF

/-- The number of pages of a segment that starts behind the first head. -/
def countOf (journal : Block) (playback : Playback) (head : Head) : Nat :=
  if head.count = uncounted then
    (journal.size - playback.sector) / (playback.pageSize + 8)
  else min head.count (journal.size / (playback.pageSize + 8) + 1)

/-- Plays segments back from a position on. -/
def playSegments (journal : Block) : (rounds position : Nat) → Playback → Block
  | 0, _, playback => playback.data
  | rounds + 1, position, playback =>
    let start := headFrom playback.sector position
    match head? journal playback.sector start with
    | none => playback.data
    | some head =>
      let count := countOf journal playback head
      match putBack journal head.nonce count (start + playback.sector) playback with
      | (.finished position, playback) => playSegments journal rounds position playback
      | (_, playback) => playback.data

/-- Takes a change of a file back. -/
def playBack (data journal : Block) : Block :=
  let ownSize := Layout.pageSizeOf data
  let usual := if isPageSize ownSize then ownSize else 4096
  match head? journal usualSector 0 with
  | none => data
  | some head =>
    let sector := journal.number 20 4
    let pageSize := journal.number 24 4
    let pageSize := if pageSize = 0 then usual else pageSize
    if !isSector sector || !isPageSize pageSize then data
    else
      let playback : Playback :=
        { data := resize data pageSize head.pages, pageSize, sector, limit := head.pages }
      let count := countOf journal playback head
      match putBack journal head.nonce count sector playback with
      | (.finished position, playback) => playSegments journal journal.size position playback
      | (_, playback) => playback.data

/-! ## Journals of several files -/

/-- The greatest number of bytes of the name of a list of journals. -/
def maxName : Nat := 512

/-- The checksum of a name, whose bytes have signs. -/
def nameChecksum (name : Block) : Nat :=
  Block.unsigned 32 (name.foldl (fun total byte => total + Block.signed 8 byte.toNat) (0 : Int))

/-- The name of the list of journals with which a journal ends, if it does. It is cut at its first
zero byte. -/
def listName? (journal : Block) : Option Bytes :=
  let size := journal.size
  let count := journal.number (size - 16) 4
  let name := journal.part (size - 16 - count) count
  if size < 16 ∨ journal.part (size - 8) 8 ≠ magic then none
  else if count = 0 ∨ maxName < count ∨ size - 16 < count then none
  else if nameChecksum name ≠ journal.number (size - 12) 4 then none
  else
    match name.toList.takeWhile (· != 0) with
    | [] => none
    | shown => some shown

/-- The names in a list of journals, each of which ends with a zero byte. -/
def listed (list : Bytes) : List Bytes :=
  (list.splitOn 0).filter (!·.isEmpty)

end Journal
end AppCatalog
