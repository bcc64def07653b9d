import AppCatalog.Query.Operator

/-!
# Functions on texts

Lengths, parts and replacements of texts. A text is looked at byte by byte, with one unit for each
byte; where characters count, a first byte of a character takes with it all bytes that only continue
one, be they too few or too many. So what is ill-formed stays as it is. All that counts characters
comes to an end at a zero byte.
-/

namespace AppCatalog
namespace Value

/-- The bytes of a value as a text. -/
def bytesOf (encoding : Encoding) (value : Value) : Bytes := (value.textBytes encoding).toList

/-- The text of bytes. -/
def ofBytes (encoding : Encoding) (bytes : Bytes) : Value := ofUtf8 encoding bytes.toArray

/-- Bytes up to the first that is zero. -/
def untilZero (bytes : Bytes) : Bytes := bytes.takeWhile (· ≠ 0)

/-- Whether a byte only continues a character. -/
def continues (byte : UInt8) : Bool := byte.toNat / 64 = 2

/-- The characters of bytes, from some of one on that was begun, which are given backwards. -/
def charactersFrom : (begun : Bytes) → Bytes → List Bytes
  | begun, [] => if begun = [] then [] else [begun.reverse]
  | begun, byte :: bytes =>
    if begun ≠ [] ∧ continues byte then charactersFrom (byte :: begun) bytes
    else
      let before := if begun = [] then [] else [begun.reverse]
      if 0xC0 ≤ byte then before ++ charactersFrom [byte] bytes
      else before ++ [byte] :: charactersFrom [] bytes

/-- The characters of bytes. -/
def characters (bytes : Bytes) : List Bytes := charactersFrom [] bytes

/-- A byte with the small letter in place of a capital one. -/
def lowerByte (byte : UInt8) : UInt8 := if 65 ≤ byte ∧ byte ≤ 90 then byte + 32 else byte

/-- A byte with the capital letter in place of a small one. -/
def upperByte (byte : UInt8) : UInt8 := if 97 ≤ byte ∧ byte ≤ 122 then byte - 32 else byte

/-- The digits of a byte to base sixteen. -/
def hexPair (byte : UInt8) : Bytes :=
  let digit (n : Nat) : UInt8 := (if n < 10 then 48 + n else 55 + n).toUInt8
  [digit (byte.toNat / 16), digit (byte.toNat % 16)]

/-- A text with other bytes. -/
def mapBytes (encoding : Encoding) (f : UInt8 → UInt8) (value : Value) : Value :=
  if value.isNull then null else ofBytes encoding ((value.bytesOf encoding).map f)

/-! ## Lengths and parts -/

/-- The number of characters, or of bytes of a blob. -/
def length (encoding : Encoding) (value : Value) : Value :=
  match value with
  | null => null
  | blob bytes => integer bytes.size
  | value => integer (characters (untilZero (value.bytesOf encoding))).length

/-- The number of bytes that write a value. -/
def byteLength (encoding : Encoding) (value : Value) : Value :=
  match value with
  | null => null
  | text bytes => integer bytes.size
  | blob bytes => integer bytes.size
  | value => integer (encoding.ofUtf8 (value.textBytes encoding)).size

/-- A whole number of 32 bits: the lower half of one of 64 bits. -/
def halved (number : Int) : Int := Block.signed 32 (Block.unsigned 64 number % 0x100000000)

/-- The length of a part that goes on to the end. -/
def maxLength : Int := 1000000000

/-- Where a part starts and how long it is, in a row of so many things. Places are counted from one,
or from the end if they are negative; a negative length goes back. -/
def spanOf (count : Nat) (place : Int) (length? : Option Int) : Nat × Nat :=
  let length := length?.getD maxLength
  let size : Int := length.natAbs
  let (start, size) :=
    if place < 0 then
      let start := count + place
      if start < 0 then (0, max 0 (size + start)) else (start, size)
    else if 0 < place then (place - 1, size)
    else (0, if 0 < size then size - 1 else 0)
  let (start, size) :=
    if 0 ≤ length then (start, size)
    else if start < size then (0, start)
    else (start - size, size)
  (start.toNat, size.toNat)

/-- A part of a text or a blob. -/
def substring (encoding : Encoding) (value place : Value) (length? : Option Value) : Value :=
  if value.isNull || place.isNull || length?.any isNull then null
  else
    let place := halved (place.toInteger encoding)
    let length? := length?.map fun length => halved (length.toInteger encoding)
    match value with
    | blob bytes =>
      let (start, count) := spanOf bytes.size place length?
      if bytes.isEmpty then null else blob (bytes.extract start (start + count))
    | value =>
      let parts := characters (untilZero (value.bytesOf encoding))
      let (start, count) := spanOf parts.length place length?
      ofBytes encoding ((parts.drop start).take count).flatten

/-- Bytes without characters of a set at the front, at most so many of them. -/
def cutFront (set : List Bytes) : (rounds : Nat) → Bytes → Bytes
  | 0, bytes => bytes
  | rounds + 1, bytes =>
    match set.find? (·.isPrefixOf bytes) with
    | some found => cutFront set rounds (bytes.drop found.length)
    | none => bytes

/-- A text without some characters at its ends. -/
def trim (encoding : Encoding) (front back : Bool) (value : Value) (set? : Option Value) : Value :=
  if value.isNull || set?.any isNull then null
  else
    let set := match set? with
      | some set => characters (untilZero (set.bytesOf encoding))
      | none => [[32]]
    let bytes := value.bytesOf encoding
    let bytes := if front then cutFront set bytes.length bytes else bytes
    let bytes :=
      if back then (cutFront (set.map List.reverse) bytes.length bytes.reverse).reverse else bytes
    ofBytes encoding bytes

/-! ## Finding -/

/-- Replaces a part that is not empty wherever it stands, in at most so many places. -/
def replaceIn (part new : Bytes) : (rounds : Nat) → Bytes → Bytes
  | 0, bytes => bytes
  | _, [] => []
  | rounds + 1, byte :: bytes =>
    if part.isPrefixOf (byte :: bytes) then
      new ++ replaceIn part new rounds ((byte :: bytes).drop part.length)
    else byte :: replaceIn part new rounds bytes

/-- A text with a part replaced. -/
def replace (encoding : Encoding) (value part new : Value) : Value :=
  if value.isNull || part.isNull then null
  else
    let bytes := value.bytesOf encoding
    let part := part.bytesOf encoding
    if untilZero part = [] then ofBytes encoding bytes
    else if new.isNull then null
    else ofBytes encoding (replaceIn part (new.bytesOf encoding) (bytes.length + 1) bytes)

/-- The place of a part, counted from one; zero if it is not there. In a text the places are those
of its characters. -/
def placeIn (part : Bytes) (inText : Bool) : (rounds place : Nat) → Bytes → Nat
  | 0, _, _ => 0
  | rounds + 1, place, bytes =>
    if part.isPrefixOf bytes then place
    else
      match bytes with
      | [] => 0
      | _ :: bytes =>
        placeIn part inText rounds (place + 1) (if inText then bytes.dropWhile continues else bytes)

/-- The place of a text in another one, or of a blob in another one. -/
def instr (encoding : Encoding) (value part : Value) : Value :=
  match value, part with
  | null, _ => null
  | _, null => null
  | blob bytes, blob part => integer (placeIn part.toList false (bytes.size + 1) 1 bytes.toList)
  | value, part =>
    let bytes := value.bytesOf encoding
    integer (placeIn (part.bytesOf encoding) true (bytes.length + 1) 1 bytes)

end Value
end AppCatalog
