import AppCatalog.Logs.Journal

/-!
# Logs that are written ahead

A log holds pages that belong into a database file but were not put there yet. It has a head and
frames, each with one page. A frame counts if it has the marks of the head and if its checksum, in
which those of all frames before it are contained, is right; the first one that does not count ends
the log. A frame may say that a change ends with it, and how many pages the file has then: what
comes behind the last such frame was cut off, and does not count either.
-/

namespace AppCatalog
namespace Log

/-! ## Checksums -/

/-- A checksum: two words of 32 bits. -/
structure Sum where
  first : Nat := 0
  second : Nat := 0
  deriving Repr, DecidableEq

/-- A word of 32 bits, the most significant byte first or last. -/
def word (isBig : Bool) (data : Block) (position : Nat) : Nat :=
  if isBig then data.number position 4
  else
    data.byte position + data.byte (position + 1) * 0x100 + data.byte (position + 2) * 0x10000
      + data.byte (position + 3) * 0x1000000

/-- The checksum of some bytes behind others, two words at a time. -/
def Sum.add (sum : Sum) (isBig : Bool) (data : Block) (position count : Nat) : Sum :=
  (List.range (count / 8)).foldl (fun sum n =>
    let place := position + 8 * n
    let first := (sum.first + word isBig data place + sum.second) % (Block.maxWord + 1)
    let second := (sum.second + word isBig data (place + 4) + first) % (Block.maxWord + 1)
    { first, second }) sum

/-- Whether a checksum stands at a position. -/
def Sum.standsAt (sum : Sum) (data : Block) (position : Nat) : Bool :=
  sum.first = data.number position 4 && sum.second = data.number (position + 4) 4

/-! ## The head -/

/-- The number of bytes of the head of a log. -/
def headSize : Nat := 32

/-- The number of bytes of the head of a frame. -/
def frameHead : Nat := 24

/-- The number with which a log starts; one more if words have their most significant byte first. -/
def magic : Nat := 0x377F0682

/-- The version of the format. -/
def version : Nat := 3007000

/-- What the head of a log says. -/
structure Head where
  pageSize : Nat
  isBig : Bool
  marks : Block
  sum : Sum

/-- The head of a log; none if the log counts as empty. A log of another version cannot be used. -/
def head? (log : Block) : Except SqlError (Option Head) :=
  let start := log.number 0 4
  let pageSize := log.number 8 4
  let isBig := start = magic + 1
  let sum := Sum.add {} isBig log 0 (headSize - 8)
  if log.size ≤ headSize ∨ (start ≠ magic ∧ start ≠ magic + 1) then .ok none
  else if !Journal.isPageSize pageSize ∨ !sum.standsAt log (headSize - 8) then .ok none
  else if log.number 4 4 ≠ version then .error .cannotOpen
  else .ok (some { pageSize, isBig, marks := log.part 16 8, sum })

/-! ## Frames -/

/-- A page in a log. -/
structure Frame where
  page : Nat
  /-- Where the bytes of the page are. -/
  position : Nat
  /-- The number of pages of the file, if a change ends here. -/
  pages : Nat
  deriving Repr, DecidableEq

/-- The frames that count from a position on. -/
def framesFrom (log : Block) (head : Head) :
    (rounds position : Nat) → Sum → List Frame
  | 0, _, _ => []
  | rounds + 1, position, sum =>
    let start := position + frameHead
    let page := log.number position 4
    let sum := (sum.add head.isBig log position 8).add head.isBig log start head.pageSize
    if log.size < start + head.pageSize then []
    else if log.part (position + 8) 8 ≠ head.marks ∨ page = 0 then []
    else if !sum.standsAt log (position + 16) then []
    else
      { page, position := start, pages := log.number (position + 4) 4 }
        :: framesFrom log head rounds (start + head.pageSize) sum

/-- The frames up to the last with which a change ends. -/
def finished (frames : List Frame) : List Frame :=
  (frames.reverse.dropWhile (·.pages = 0)).reverse

/-! ## Recovery -/

/-- A file of so many pages, each of them as the last of some frames or else a file has it. -/
def overlay (data log : Block) (pageSize count : Nat) (frames : List Frame) : Block :=
  let data := Journal.resize data pageSize count
  frames.foldl (fun data frame =>
    if count < frame.page then data
    else Journal.write data ((frame.page - 1) * pageSize) (log.part frame.position pageSize)) data

/-- The file with what its log has ahead. -/
def recover (data log : Block) : Except SqlError Block := do
  match ← head? log with
  | none => return data
  | some head =>
    let frames := finished (framesFrom log head log.size headSize head.sum)
    match frames.getLast? with
    | none => return data
    | some last => return overlay data log head.pageSize last.pages frames

end Log
end AppCatalog
