import AppCatalog.Json.Binary

/-!
# Places in structured values

A path leads from a value to a part of it: step by step, by a label behind a point or by the place
in a list between brackets, which may be counted from the end. A part is looked up, replaced, added
or removed. A step is looked at only when its value is reached.
-/

namespace AppCatalog
namespace JsonTree

/-- Why a path leads nowhere. -/
inductive PathIssue where
  | notFound
  /-- The path makes no sense. -/
  | senseless
  deriving DecidableEq

/-- A step of a path. -/
inductive Step where
  | member (label : Label)
  | item (place : Nat)
  /-- A place in a list that is counted from behind its end. -/
  | fromEnd (count : Nat)

/-- Takes a label off the front of a path, behind its point. -/
def takeLabel (path : Bytes) : Except PathIssue (Label × Bytes) :=
  match path with
  | 34 :: rest =>
    let name := rest.takeWhile (· ≠ 34)
    let behind := rest.dropWhile (· ≠ 34)
    if behind.isEmpty then .error .senseless
    else .ok (⟨if name.contains 92 then .lenient else .raw, name⟩, behind.drop 1)
  | path =>
    let isInside (byte : UInt8) : Bool := byte ≠ 46 && byte ≠ 91
    let name := path.takeWhile isInside
    if name.isEmpty then .error .senseless else .ok (⟨.raw, name⟩, path.dropWhile isInside)

/-- Takes a place in a list off the front of a path, behind its bracket. -/
def takePlace (path : Bytes) : Except PathIssue (Step × Bytes) :=
  let digits (bytes : Bytes) : Nat × Bytes :=
    (Numeral.valueOf (bytes.takeWhile Numeral.isDigit) % 0x100000000,
      bytes.dropWhile Numeral.isDigit)
  let closed (step : Step) (bytes : Bytes) : Except PathIssue (Step × Bytes) :=
    match bytes with
    | 93 :: rest => .ok (step, rest)
    | _ => .error .senseless
  match path with
  | 35 :: 45 :: rest =>
    if rest.head?.any Numeral.isDigit then
      let (count, rest) := digits rest
      closed (.fromEnd count) rest
    else .error .senseless
  | 35 :: rest => closed (.fromEnd 0) rest
  | path =>
    let (place, rest) := digits path
    if path.head?.any Numeral.isDigit then closed (.item place) rest else .error .senseless

/-- Takes the next step off a path that leads on from a value. A step that does not fit the kind of
the value leads nowhere. -/
def takeStep (json : JsonTree) (path : Bytes) : Except PathIssue (Step × Bytes) :=
  match path with
  | 46 :: rest => do
    let (label, rest) ← takeLabel rest
    match json with
    | members _ => return (.member label, rest)
    | _ => throw .notFound
  | 91 :: rest =>
    match json with
    | list _ => takePlace rest
    | _ => .error .notFound
  | _ => .error .senseless

/-- The place in a list that a step means; none if it lies before the list. -/
def placeOf? (count : Nat) : Step → Option Nat
  | .item place => some place
  | .fromEnd back => if back ≤ count then some (count - back) else none
  | .member _ => none

/-- The part of a value to which a path leads. -/
def lookUp : (rounds : Nat) → Bytes → JsonTree → Except PathIssue JsonTree
  | 0, _, _ => .error .notFound
  | _, [], json => .ok json
  | rounds + 1, path, json => do
    let (step, rest) ← takeStep json path
    match step, json with
    | .member label, members items =>
      match items.find? (·.1.same label) with
      | some (_, item) => lookUp rounds rest item
      | none => throw .notFound
    | step, list items =>
      match (placeOf? items.length step).bind (items[·]?) with
      | some item => lookUp rounds rest item
      | none => throw .notFound
    | _, _ => throw .notFound

/-- What is done where a path leads to. -/
inductive Editing where
  | remove
  | replace
  /-- Only adds what is not there. -/
  | insert
  /-- Adds or replaces. -/
  | set
  deriving DecidableEq

/-- Whether something is added that is not there. -/
def Editing.adds (editing : Editing) : Bool := editing = .insert || editing = .set

/-- Changes a value where a path leads to. Nothing is left of a value that is removed. What is
added may need lists and members around it. -/
def edit (editing : Editing) (new : JsonTree) :
    (rounds : Nat) → Bytes → JsonTree → Except PathIssue (Option JsonTree)
  | 0, _, _ => .error .notFound
  | _, [], json =>
    match editing with
    | .remove => .ok none
    | .insert => .ok (some json)
    | _ => .ok (some new)
  | rounds + 1, path, json => do
    let (step, rest) ← takeStep json path
    let added (rest : Bytes) : Except PathIssue (List JsonTree) := do
      if !editing.adds then throw .notFound
      else if rest.isEmpty then return [new]
      else
        let around := if rest.head? = some 46 then members [] else list []
        return (← edit editing new rounds rest around).toList
    match step, json with
    | .member label, members items =>
      let before := items.takeWhile fun item => !item.1.same label
      match items.drop before.length with
      | (name, item) :: after =>
        let changed := (← edit editing new rounds rest item).toList.map fun json => (name, json)
        return some (members (before ++ changed ++ after))
      | [] => return some (members (items ++ (← added rest).map fun json => (label, json)))
    | step, list items =>
      match placeOf? items.length step with
      | none => throw .notFound
      | some place =>
        match items.drop place with
        | item :: after =>
          let changed := (← edit editing new rounds rest item).toList
          return some (list (items.take place ++ changed ++ after))
        | [] =>
          if place = items.length then return some (list (items ++ (← added rest)))
          else throw .notFound
    | _, _ => throw .notFound

/-- More steps than a path can have. -/
def maxSteps (path : Bytes) : Nat := path.length + 1

/-! ## Merging -/

mutual

/-- A value changed by another one: members are changed one by one, and removed where the other one
has nothing; all else is replaced. -/
def merged (target : JsonTree) : JsonTree → JsonTree
  | members changes =>
    match target with
    | members items => members (mergedMembers items changes)
    | _ => members (mergedMembers [] changes)
  | json => json

/-- Members changed by others. -/
def mergedMembers (items : List (Label × JsonTree)) : List (Label × JsonTree) → List (Label × JsonTree)
  | [] => items
  | (label, change) :: rest =>
    let isHere := items.any (·.1.same label)
    let before := items.takeWhile fun item => !item.1.same label
    let behind := items.drop (before.length + 1)
    let old := ((items.drop before.length).head?.map (·.2)).getD (members [])
    let name := ((items.drop before.length).head?.map (·.1)).getD label
    let isNothing := match change with
      | null => true
      | _ => false
    let items :=
      if isHere then
        if isNothing then before ++ behind else before ++ (name, merged old change) :: behind
      else if isNothing then items
      else items ++ [(label, merged (members []) change)]
    mergedMembers items rest

end

end JsonTree
end AppCatalog
