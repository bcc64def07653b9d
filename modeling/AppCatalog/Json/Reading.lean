import AppCatalog.Json.Basic

/-!
# Reading structured texts

A strict reader knows numbers, texts in double quotes, lists, members, and blanks between them. A
lenient one also takes comments, other blanks, labels without quotes, numbers to base sixteen, and
a comma behind the last item. What is read says whether it needed leniency, and where it broke off.
-/

namespace AppCatalog
namespace JsonTree

/-- What is known while a structured text is read. -/
structure Scan where
  /-- Whether something was taken that only lenient readers know. -/
  isLenient : Bool := false
  /-- Where something was found that is not a value. -/
  flaw : Nat := 0
  depth : Nat := 0

/-- Reads part of a structured text. -/
abbrev Scanning : Type → Type := StateM Scan

/-- What stands somewhere in a structured text. -/
inductive Sight where
  /-- A value, and where it ends. -/
  | value (json : JsonTree) (stop : Nat)
  | endOfText
  | broken
  | closeMembers
  | closeList
  | comma
  | colon

/-- The greatest depth of lists and members within each other. -/
def maxDepth : Nat := 1000

/-! ## Characters -/

/-- Whether a byte is a blank for strict readers. -/
def isBlank (byte : Nat) : Bool := byte = 32 || byte = 9 || byte = 10 || byte = 13

/-- Whether a byte is a decimal digit. -/
def isDigit (byte : Nat) : Bool := 48 ≤ byte ∧ byte ≤ 57

/-- Whether a byte is a letter. -/
def isLetter (byte : Nat) : Bool := (65 ≤ byte ∧ byte ≤ 90) ∨ (97 ≤ byte ∧ byte ≤ 122)

/-- Whether a byte is a letter or a digit. -/
def isAlnum (byte : Nat) : Bool := isLetter byte || isDigit byte

/-- Whether a label without quotes can start with a byte. -/
def startsLabel (byte : Nat) : Bool := isLetter byte || byte = 36 || byte = 95 || 128 ≤ byte

/-- Whether a label without quotes can go on with a byte. -/
def continuesLabel (byte : Nat) : Bool := startsLabel byte || isDigit byte

/-- Whether a byte stands in a text as it is, for all readers. -/
def isSafe (byte : Nat) : Bool := 32 ≤ byte && byte ≠ 34 && byte ≠ 39 && byte ≠ 92

/-- How many digits to base sixteen stand in a row, up to some number of them. -/
def hexCount (z : Block) (i : Nat) : (most : Nat) → Nat
  | 0 => 0
  | most + 1 => if isHexDigit (z.byte i) then hexCount z (i + 1) most + 1 else 0

/-- The first position from one on where a byte does not satisfy a condition. -/
def skipWhile (z : Block) (holds : Nat → Bool) : (rounds : Nat) → Nat → Nat
  | 0, i => i
  | rounds + 1, i => if holds (z.byte i) then skipWhile z holds rounds (i + 1) else i

/-- The position behind blanks of strict readers. -/
def skipBlanks (z : Block) (i : Nat) : Nat := skipWhile z isBlank z.size i

/-- The end of a comment between slashes and stars, if it has one. -/
def commentEnd? (z : Block) : (rounds : Nat) → Nat → Option Nat
  | 0, _ => none
  | rounds + 1, i =>
    if z.byte i = 0 then none
    else if z.byte i = 47 ∧ z.byte (i - 1) = 42 then some (i + 1)
    else commentEnd? z rounds (i + 1)

/-- Whether a separator of lines or paragraphs stands somewhere. -/
def isSeparator (z : Block) (i : Nat) : Bool :=
  z.byte i = 226 && z.byte (i + 1) = 128 && (z.byte (i + 2) = 168 || z.byte (i + 2) = 169)

/-- The end of a comment that goes up to the end of its line. -/
def lineEnd (z : Block) : (rounds : Nat) → Nat → Nat
  | 0, i => i
  | rounds + 1, i =>
    if z.byte i = 0 then i
    else if z.byte i = 10 ∨ z.byte i = 13 then i + 1
    else if isSeparator z i then if z.byte (i + 2) = 0 then i + 2 else i + 3
    else lineEnd z rounds (i + 1)

/-- The number of bytes of one of the blanks of lenient readers, if one stands somewhere. -/
def wideBlank (z : Block) (i : Nat) : Nat :=
  let a := z.byte (i + 1)
  let b := z.byte (i + 2)
  match z.byte i with
  | 0xC2 => if a = 0xA0 then 2 else 0
  | 0xE1 => if a = 0x9A ∧ b = 0x80 then 3 else 0
  | 0xE2 =>
    if a = 0x80 then
      if (0x80 ≤ b ∧ b ≤ 0x8A) ∨ b = 0xA8 ∨ b = 0xA9 ∨ b = 0xAF then 3 else 0
    else if a = 0x81 ∧ b = 0x9F then 3 else 0
  | 0xE3 => if a = 0x80 ∧ b = 0x80 then 3 else 0
  | 0xEF => if a = 0xBB ∧ b = 0xBF then 3 else 0
  | _ => 0

/-- The position behind blanks and comments of lenient readers. -/
def skipGaps (z : Block) : (rounds : Nat) → Nat → Nat
  | 0, i => i
  | rounds + 1, i =>
    let byte := z.byte i
    if byte = 32 ∨ (9 ≤ byte ∧ byte ≤ 13) then skipGaps z rounds (i + 1)
    else if byte = 47 then
      if z.byte (i + 1) = 42 ∧ z.byte (i + 2) ≠ 0 then
        match commentEnd? z z.size (i + 3) with
        | some stop => skipGaps z rounds stop
        | none => i
      else if z.byte (i + 1) = 47 then skipGaps z rounds (lineEnd z z.size (i + 2))
      else i
    else
      match wideBlank z i with
      | 0 => i
      | count => skipGaps z rounds (i + count)

/-- The position behind blanks and comments. -/
def gapEnd (z : Block) (i : Nat) : Nat := skipGaps z (z.size + 1) i

/-! ## Single values -/

/-- Says that only lenient readers know what was taken. -/
def leniently : Scanning Unit := modify ({ · with isLenient := true })

/-- Says that something is no value. -/
def brokenAt (i : Nat) : Scanning Sight := do
  modify ({ · with flaw := i })
  return .broken

/-- Says that something stands somewhere that ends a value or separates values. -/
def markAt (i : Nat) (sight : Sight) : Scanning Sight := do
  modify ({ · with flaw := i })
  return sight

/-- The bytes between two positions. -/
def bytesBetween (z : Block) (start stop : Nat) : Bytes := (z.extract start stop).toList

/-- Whether a word stands somewhere, whatever the case of its letters. -/
def hasWord (z : Block) (i : Nat) (word : String) : Bool :=
  let bytes := Utf8.encode word
  (bytesBetween z i (i + bytes.length)).map Value.lowerByte = bytes

/-- Reads a text up to its closing quote. -/
def textFrom (z : Block) (start quote : Nat) :
    (rounds : Nat) → TextForm → Nat → Scanning Sight
  | 0, _, j => brokenAt j
  | rounds + 1, form, j => do
    let c := z.byte j
    if isSafe c then textFrom z start quote rounds form (j + 1)
    else if c = quote then
      return .value (.text ⟨form, bytesBetween z (start + 1) j⟩) (j + 1)
    else if c = 92 then
      let c := z.byte (j + 1)
      let j := j + 1
      let isKnown := [34, 92, 47, 98, 102, 110, 114, 116].contains c ||
        (c = 117 && hexCount z (j + 1) 4 = 4)
      let isExtra := [39, 118, 10, 48].contains c || isSeparator z j ||
        (c = 120 && hexCount z (j + 1) 2 = 2)
      if isKnown then
        textFrom z start quote rounds (if form = .plain then .escaped else form) (j + 1)
      else if isExtra then
        leniently
        textFrom z start quote rounds .lenient (j + 1)
      else if c = 13 then
        leniently
        textFrom z start quote rounds .lenient (if z.byte (j + 1) = 10 then j + 2 else j + 1)
      else brokenAt j
    else if c ≤ 31 then
      if c = 0 then brokenAt j
      else
        leniently
        textFrom z start quote rounds .lenient (j + 1)
    else textFrom z start quote rounds (if c = 34 then .lenient else form) (j + 1)

/-- Ends a number. A plus sign before it is left out. -/
def numberEnd (z : Block) (i j : Nat) (isReal isLenient : Bool) : Scanning Sight := do
  let i := if z.byte i = 43 then i + 1 else i
  return .value (.number isReal isLenient (bytesBetween z i j)) j

/-- Whether a point without digits behind it ends a number with digits. -/
def endsInPoint (z : Block) (i j : Nat) : Bool :=
  z.byte (j - 1) = 46 && i + 2 ≤ j && isDigit (z.byte (j - 2))

/-- Reads the digits, the point and the exponent of a number. -/
def numberFrom (z : Block) (i : Nat) :
    (rounds : Nat) → (isReal isLenient hasPower : Bool) → Nat → Scanning Sight
  | 0, _, _, _, j => brokenAt j
  | rounds + 1, isReal, isLenient, hasPower, j => do
    let c := z.byte j
    if isDigit c then numberFrom z i rounds isReal isLenient hasPower (j + 1)
    else if c = 46 then
      if isReal then brokenAt j else numberFrom z i rounds true isLenient hasPower (j + 1)
    else
      let isBare := z.byte (j - 1) < 48
      if isBare && !endsInPoint z i j then brokenAt j
      else
        if isBare then leniently
        let isLenient := isLenient || isBare
        if c = 101 ∨ c = 69 then
          if hasPower then brokenAt j
          else
            let sign := z.byte (j + 1)
            let j := if sign = 43 ∨ sign = 45 then j + 1 else j
            if isDigit (z.byte (j + 1)) then numberFrom z i rounds true isLenient true (j + 1)
            else brokenAt j
        else numberEnd z i j isReal isLenient

/-- Reads a number to base sixteen whose digits start somewhere. -/
def hexNumber (z : Block) (i digits : Nat) : Scanning Sight := do
  leniently
  numberEnd z i (digits + hexCount z digits z.size) false true

/-- Whether the mark of base sixteen and a digit stand somewhere. -/
def startsHex (z : Block) (i : Nat) : Bool :=
  (z.byte i = 120 || z.byte i = 88) && isHexDigit (z.byte (i + 1))

/-- Reads a number that starts with a sign. -/
def signedNumber (z : Block) (i : Nat) : Scanning Sight := do
  let next := z.byte (i + 1)
  let isLenient := false
  if !isDigit next then
    if hasWord z (i + 1) "inf" then
      leniently
      let stop := if hasWord z (i + 4) "inity" then i + 9 else i + 4
      return .value (endless (z.byte i = 45)) stop
    else if next = 46 then
      leniently
      numberFrom z i z.size false true false (i + 1)
    else brokenAt i
  else if next = 48 ∧ isDigit (z.byte (i + 2)) then brokenAt (i + 1)
  else if next = 48 ∧ startsHex z (i + 2) then hexNumber z i (i + 3)
  else numberFrom z i z.size false isLenient false (i + 1)

/-- Reads a number. -/
def numberAt (z : Block) (i : Nat) : Scanning Sight := do
  match z.byte i with
  | 43 =>
    leniently
    signedNumber z i
  | 45 => signedNumber z i
  | 46 =>
    if isDigit (z.byte (i + 1)) then
      leniently
      numberFrom z i z.size true true false (i + 1)
    else brokenAt i
  | 48 =>
    if startsHex z (i + 1) then hexNumber z i (i + 2)
    else if isDigit (z.byte (i + 1)) then brokenAt (i + 1)
    else numberFrom z i z.size false false false (i + 1)
  | _ => numberFrom z i z.size false false false (i + 1)

/-- The words that lenient readers take for a number that is none, or that is too great. -/
def specialWords : List (String × JsonTree) :=
  [("inf", endless false), ("infinity", endless false), ("nan", .null), ("qnan", .null),
    ("snan", .null)]

/-- Reads a word. -/
def wordAt (z : Block) (i : Nat) : Scanning Sight := do
  let ends (word : String) : Bool := !isAlnum (z.byte (i + word.length))
  let exact (word : String) : Bool :=
    bytesBetween z i (i + word.length) = Utf8.encode word && ends word
  if exact "true" then return .value .yes (i + 4)
  else if exact "false" then return .value .no (i + 5)
  else if exact "null" then return .value .null (i + 4)
  else if z.byte i = 116 ∨ z.byte i = 102 then brokenAt i
  else
    match specialWords.find? fun (word, _) => hasWord z i word && ends word with
    | some (word, json) =>
      leniently
      return .value json (i + word.length)
    | none => brokenAt i

/-- The end of a label without quotes, and how it is written. -/
def labelEnd (z : Block) : (rounds : Nat) → TextForm → Nat → TextForm × Nat
  | 0, form, k => (form, k)
  | rounds + 1, form, k =>
    if continuesLabel (z.byte k) && gapEnd z k = k then labelEnd z rounds form (k + 1)
    else if z.byte k = 92 ∧ z.byte (k + 1) = 117 ∧ hexCount z (k + 2) 4 = 4 then
      labelEnd z rounds .escaped (k + 1)
    else (form, k)

/-- Reads a label without quotes, if one stands somewhere. -/
def bareLabel? (z : Block) (j : Nat) : Option (Label × Nat) :=
  let isEscaped := z.byte j = 92 && z.byte (j + 1) = 117 && hexCount z (j + 2) 4 = 4
  if startsLabel (z.byte j) || isEscaped then
    let (form, k) := labelEnd z z.size (if isEscaped then .escaped else .plain) (j + 1)
    some (⟨form, bytesBetween z j k⟩, k)
  else none

/-! ## All values -/

/-- Reads a list or members, which start somewhere, one level deeper. -/
def entered (i : Nat) (inside : Scanning Sight) : Scanning Sight := do
  let scan ← get
  if maxDepth < scan.depth + 1 then brokenAt i
  else
    set { scan with depth := scan.depth + 1 }
    match ← inside with
    | .value json stop =>
      modify fun scan => { scan with depth := scan.depth - 1 }
      return .value json stop
    | sight => return sight

mutual

/-- Reads what stands somewhere. -/
def sightAt (z : Block) : (rounds : Nat) → Nat → Scanning Sight
  | 0, i => brokenAt i
  | rounds + 1, i => do
    match z.byte i with
    | 0 => return .endOfText
    | 123 => entered i do membersFrom z rounds i (i + 1) []
    | 91 => entered i do itemsFrom z rounds i (i + 1) []
    | 39 =>
      leniently
      textFrom z i 39 z.size .plain (i + 1)
    | 34 => textFrom z i 34 z.size .plain (i + 1)
    | 125 => markAt i .closeMembers
    | 93 => markAt i .closeList
    | 44 => markAt i .comma
    | 58 => markAt i .colon
    | byte =>
      if isDigit byte || byte = 43 || byte = 45 || byte = 46 then numberAt z i
      else if isBlank byte then sightAt z rounds (skipBlanks z i)
      else
        let stop := gapEnd z i
        if stop ≠ i then
          leniently
          sightAt z rounds stop
        else wordAt z i

/-- Reads the items of a list that starts somewhere, behind some others. -/
def itemsFrom (z : Block) :
    (rounds : Nat) → (start : Nat) → Nat → List JsonTree → Scanning Sight
  | 0, _, j, _ => brokenAt j
  | rounds + 1, start, j, before => do
    match ← sightAt z rounds j with
    | .value json stop =>
      let found := json :: before
      let stop := skipBlanks z stop
      if z.byte stop = 44 then itemsFrom z rounds start (stop + 1) found
      else if z.byte stop = 93 then return .value (.list found.reverse) (stop + 1)
      else
        match ← sightAt z rounds stop with
        | .comma => itemsFrom z rounds start ((← get).flaw + 1) found
        | .closeList => return .value (.list found.reverse) ((← get).flaw + 1)
        | _ => brokenAt stop
    | .closeList =>
      unless before.isEmpty do leniently
      return .value (.list before.reverse) ((← get).flaw + 1)
    | .broken => return .broken
    | _ => brokenAt j

/-- Reads the members of what starts somewhere, behind some others. -/
def membersFrom (z : Block) :
    (rounds : Nat) → (start : Nat) → Nat → List (Label × JsonTree) → Scanning Sight
  | 0, _, j, _ => brokenAt j
  | rounds + 1, start, j, before => do
    match ← sightAt z rounds j with
    | .value (.text label) stop => valueFrom z rounds start label stop before
    | .value _ _ => brokenAt j
    | .closeMembers =>
      unless before.isEmpty do leniently
      return .value (.members before.reverse) ((← get).flaw + 1)
    | sight =>
      let k := gapEnd z j
      match bareLabel? z k with
      | some (label, stop) =>
        leniently
        valueFrom z rounds start label stop before
      | none =>
        match sight with
        | .broken => return .broken
        | _ => brokenAt k

/-- Reads the value behind a label, and the members behind that. -/
def valueFrom (z : Block) :
    (rounds : Nat) → (start : Nat) → Label → Nat → List (Label × JsonTree) → Scanning Sight
  | 0, _, _, j, _ => brokenAt j
  | rounds + 1, start, label, j, before => do
    let k := skipBlanks z j
    let place? ←
      if z.byte k = 58 then pure (some (k + 1))
      else
        match ← sightAt z rounds k with
        | .colon => pure (some ((← get).flaw + 1))
        | .broken => pure none
        | _ =>
          modify ({ · with flaw := k })
          pure none
    match place? with
    | none => return .broken
    | some place =>
      match ← sightAt z rounds place with
      | .value json stop =>
        let found := (label, json) :: before
        let stop := skipBlanks z stop
        if z.byte stop = 44 then membersFrom z rounds start (stop + 1) found
        else if z.byte stop = 125 then return .value (.members found.reverse) (stop + 1)
        else
          match ← sightAt z rounds stop with
          | .comma => membersFrom z rounds start ((← get).flaw + 1) found
          | .closeMembers => return .value (.members found.reverse) ((← get).flaw + 1)
          | _ => brokenAt stop
      | .broken => return .broken
      | _ => brokenAt place

end

/-- What was read of a text. -/
structure Found where
  json? : Option JsonTree
  isLenient : Bool
  flaw : Nat

/-- Reads all of a text. -/
def read (bytes : Bytes) : Found :=
  let z : Block := bytes.toArray
  let (sight, scan) := (sightAt z (3 * z.size + 10) 0).run {}
  let failed : Found := { json? := none, isLenient := scan.isLenient, flaw := scan.flaw }
  match sight with
  | .value json stop =>
    let stop := skipBlanks z stop
    if z.byte stop = 0 then { failed with json? := some json }
    else if z.byte (gapEnd z stop) = 0 then { failed with json? := some json, isLenient := true }
    else failed
  | _ => failed

/-- The value that a text writes, for lenient readers. -/
def ofText? (bytes : Bytes) : Option JsonTree := (read bytes).json?

end JsonTree
end AppCatalog
