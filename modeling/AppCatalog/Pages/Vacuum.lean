import AppCatalog.Pages.Tree

/-!
# Giving pages back

What happens to a file when changes are kept. If pages that fall free are given back, the pages
at the end of the file move to free places before them, and the file is cut off there. The header
then counts the change.
-/

namespace AppCatalog
namespace Volume

/-- The number of pages after free ones are given back, as words of 32 bits. -/
def finalCount (layout : Layout) (count free : Nat) : Nat :=
  let covered := layout.usable / 5
  let word (value : Int) : Nat := Block.unsigned 32 value
  let registers :=
    word ((free : Int) - count + layout.registerOf count + covered) / covered
  let final := word ((count : Int) - free - registers)
  if layout.isRegister final then final - 1 else final

/-- Takes free pages until one is found up to a limit. -/
def takeUpTo (limit : Nat) : (rounds : Nat) → Act Nat
  | 0 => giveUp
  | rounds + 1 => do
    let count := (← get).count
    let number ← allocate (.near 0)
    if count < number then giveUp
    if number ≤ limit then return number else takeUpTo limit rounds

/-- Empties the last pages, one by one, down to a final number of pages, as long as there are free
ones. -/
def emptyFrom (final : Nat) : (rounds number : Nat) → Act Unit
  | 0, _ => return
  | rounds + 1, number => do
    if number ≤ final then return
    unless (← get).layout.isRegister number do
      if (← header Layout.freeCountAt 4) = 0 then return
      let (use, parent) ← registered number
      if use = .root then giveUp
      if use ≠ .free then
        let target ← pinning [number] (takeUpTo final ((← get).count + 1))
        relocate number use parent target
    emptyFrom final rounds (number - 1)

/-- Gives all free pages back. -/
def giveBack : Act Unit := do
  let volume ← get
  if volume.layout.registered ∧ !volume.layout.onDemand then
    let count := volume.count
    if volume.layout.isRegister count then giveUp
    let free ← header Layout.freeCountAt 4
    if free ≠ 0 then
      let final := finalCount volume.layout count free
      if count < final then giveUp
      emptyFrom final (count - final) count
      touch 1
      alter 1 fun bytes =>
        ((bytes.setNumber Layout.firstFreeAt 4 0).setNumber Layout.freeCountAt 4 0).setNumber
          Layout.pageCountAt 4 final
      modify fun volume => { volume with count := final, shortened := true }

/-- Starts to change a file: the header has to say how many pages count. -/
def startWriting : Act Unit := do
  let volume ← get
  unless volume.writable do throw .readOnly
  if (← header Layout.pageCountAt 4) ≠ volume.count then
    touch 1
    alter 1 (·.setNumber Layout.pageCountAt 4 volume.count)

/-- Counts a change in the header, unless it is left uncounted. -/
def countChange : Act Unit := do
  let changes := (← header Layout.changesAt 4) + 1
  touch 1
  alter 1 fun bytes =>
    ((bytes.setNumber Layout.changesAt 4 changes).setNumber Layout.countedAt 4 changes).setNumber
      Layout.writerAt 4 Layout.writer

/-- Keeps the changes of a file. -/
def finish : Act Unit := do
  giveBack
  let volume ← get
  if volume.shortened then
    modify fun volume => { volume with pages := volume.pages.extract 0 volume.count }
  if volume.written then countChange

end Volume
end AppCatalog
