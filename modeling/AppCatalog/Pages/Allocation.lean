import AppCatalog.Pages.Volume

/-!
# Free pages

Pages that are free form a chain: each of its pages names the next one, and the free pages that
are not in the chain. A page that is needed is taken from there, or appended if none is free. Who
needs a page may ask for one near another, for one up to a limit, or for exactly one.
-/

namespace AppCatalog
namespace Volume

/-- Which free page is wanted. -/
inductive Wish where
  /-- One that is easy to get, close to a page if that is not zero. -/
  | near (number : Nat)
  /-- That page, unless it is in use. -/
  | exactly (number : Nat)
  /-- One up to that page. -/
  | upTo (number : Nat)
  deriving Repr, DecidableEq

/-- Checks that nobody rests on a page that is taken for a free one; it is no page of a tree any
more. -/
def claim (number : Nat) (held : List Nat) : Act Page := do
  let found ← page number
  if held.contains number ∨ (← pins number) ≠ 0 then giveUp
  change number fun page => { page with isChecked := false }
  return found

/-- The distance of two pages, as words of 32 bits. -/
def distance (a b : Nat) : Nat :=
  (Block.signed 32 (Block.unsigned 32 ((a : Int) - b))).natAbs

/-- The place of the page closest to one among numbers; the first of several. -/
def closest (number : Nat) (pages : List Nat) : Nat :=
  let least := (pages.map (distance · number)).min?.getD 0
  pages.findIdx (distance · number = least)

/-- Makes the first of the free pages that a page of the chain names take its place there. -/
def inherit (number count : Nat) (bytes : Block) (previous? : Option Nat) : Act Unit := do
  let heir := bytes.number 8 4
  if (← get).count < heir then giveUp
  let _ ← claim heir (number :: previous?.toList)
  touch heir
  alter heir fun old =>
    ((old.setNumber 0 4 (bytes.number 0 4)).setNumber 4 4 (count - 1)).put 8
      (bytes.part 12 (4 * (count - 1)))
  match previous? with
  | none => alter 1 (·.setNumber Layout.firstFreeAt 4 heir)
  | some previous =>
    touch previous
    alter previous (·.setNumber 0 4 heir)

/-- Takes a page out of the chain. -/
def unchain (number count : Nat) (bytes : Block) (previous? : Option Nat) : Act Unit := do
  touch number
  if count ≠ 0 then inherit number count bytes previous?
  else
    match previous? with
    | none => alter 1 (·.setNumber Layout.firstFreeAt 4 (bytes.number 0 4))
    | some previous =>
      touch previous
      alter previous (·.setNumber 0 4 (bytes.number 0 4))

/-- Whether a page is one that is searched for. -/
def Wish.accepts : Wish → Nat → Bool
  | .near _, _ => true
  | .exactly number, found => found = number
  | .upTo number, found => found ≤ number

/-- The place of the page that suits a wish best among the free pages that a page of the chain
names. -/
def Wish.best (wish : Wish) (pages : List Nat) : Nat :=
  match wish with
  | .near 0 => 0
  | .near number => closest number pages
  | .exactly number => closest number pages
  | .upTo number => (pages.findIdx? (· ≤ number)).getD 0

/-- Takes a free page that suits a wish, following the chain as long as a page is `searched`
for. -/
def takeFrom (wish : Wish) (searched : Bool) :
    (rounds : Nat) → (previous? : Option Nat) → Act Nat
  | 0, _ => giveUp
  | rounds + 1, previous? => do
    let volume ← get
    let number ← match previous? with
      | none => header Layout.firstFreeAt 4
      | some previous => pure ((← page previous).bytes.number 0 4)
    if volume.count < number then giveUp
    let bytes := (← claim number previous?.toList).bytes
    let count := bytes.number 4 4
    if count = 0 ∧ !searched then
      touch number
      alter 1 (·.setNumber Layout.firstFreeAt 4 (bytes.number 0 4))
      return number
    else if volume.layout.usable / 4 - 2 < count then giveUp
    else if searched ∧ wish.accepts number then
      unchain number count bytes previous?
      return number
    else if count = 0 then takeFrom wish searched rounds (some number)
    else
      let named := (List.range count).map fun n => bytes.number (8 + 4 * n) 4
      let place := wish.best named
      let found := named.getD place 0
      if volume.count < found ∨ found < 2 then giveUp
      if searched ∧ !wish.accepts found then takeFrom wish searched rounds (some number)
      else
        touch number
        alter number fun bytes =>
          (if place < count - 1 then bytes.setNumber (8 + 4 * place) 4 (named.getLast?.getD 0)
            else bytes).setNumber 4 4 (count - 1)
        let _ ← claim found (number :: previous?.toList)
        touch found
        return found

/-- Appends a page, and one for the register before it if one is due. -/
def append : Act Nat := do
  touch 1
  let add : Act Nat := do
    modify fun volume => { volume with count := volume.count + 1 }
    let number := (← get).count
    let _ ← claim number []
    touch number
    return number
  let layout := (← get).layout
  if layout.registered && layout.isRegister ((← get).count + 1) then
    let _ ← add
  let next := (← get).count + 1
  alter 1 (·.setNumber Layout.pageCountAt 4 next)
  add

/-- Whether a wish makes one search the whole chain. -/
def isSearched : Wish → Act Bool
  | .near _ => return false
  | .upTo _ => return true
  | .exactly number => do
    if (← get).count < number then return false
    else return (← registered number).1 = .free

/-- Takes a page that is not in use. -/
def allocate (wish : Wish) : Act Nat := do
  let volume ← get
  let free ← header Layout.freeCountAt 4
  if volume.count ≤ free then giveUp
  if free = 0 then append
  else
    let searched ← isSearched wish
    touch 1
    alter 1 (·.setNumber Layout.freeCountAt 4 (free - 1))
    takeFrom wish searched (free + 1) none

/-- Gives a page back: the first page of the chain names it, or it becomes that page itself. -/
def free (number : Nat) : Act Unit := do
  let volume ← get
  if number < 2 ∨ volume.count < number then giveUp
  touch 1
  let count ← header Layout.freeCountAt 4
  alter 1 (·.setNumber Layout.freeCountAt 4 (count + 1))
  ifRegistered (register number .free 0)
  let first ← if count = 0 then pure 0 else header Layout.firstFreeAt 4
  if count ≠ 0 ∧ volume.count < first then giveUp
  let named ← if count = 0 then pure 0 else pure ((← page first).bytes.number 4 4)
  if volume.layout.usable / 4 - 2 < named then giveUp
  if count ≠ 0 ∧ named < volume.layout.usable / 4 - 8 then
    touch first
    alter first fun bytes => (bytes.setNumber 4 4 (named + 1)).setNumber (8 + 4 * named) 4 number
  else
    touch number
    alter number fun bytes => (bytes.setNumber 0 4 first).setNumber 4 4 0
    alter 1 (·.setNumber Layout.firstFreeAt 4 number)
  change number fun page => { page with isChecked := false }

end Volume
end AppCatalog
