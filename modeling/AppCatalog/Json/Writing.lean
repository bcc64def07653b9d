import AppCatalog.Json.Reading

/-!
# Writing structured texts

A value is written without blanks, or with each item on a line of its own. Whatever only lenient
readers know is written in a way that all readers know.
-/

namespace AppCatalog
namespace JsonTree

/-! ## Texts -/

/-- A character below the blank, as it is written behind a backslash. -/
def controlBytes (byte : UInt8) : Bytes :=
  match byte with
  | 8 => [92, 98]
  | 9 => [92, 116]
  | 10 => [92, 110]
  | 12 => [92, 102]
  | 13 => [92, 114]
  | byte => Utf8.encode "\\u00" ++ (Value.hexPair byte).map Value.lowerByte

/-- A text as it is, between quotes. -/
def quotedBytes (bytes : Bytes) : Bytes :=
  34 :: bytes.flatMap (fun byte =>
    if byte = 34 ∨ byte = 92 then [92, byte]
    else if byte < 32 then controlBytes byte
    else [byte]) ++ [34]

/-- The characters of a text for lenient readers, as all readers know them; nothing if it breaks
off. -/
def strictBytes : (rounds : Nat) → Bytes → Option Bytes
  | 0, _ => none
  | _, [] => some []
  | rounds + 1, bytes =>
    match bytes with
    | 34 :: rest => (strictBytes rounds rest).map ([92, 34] ++ ·)
    | 92 :: 39 :: rest => (strictBytes rounds rest).map (39 :: ·)
    | 92 :: 118 :: rest => (strictBytes rounds rest).map (Utf8.encode "\\u000b" ++ ·)
    | 92 :: 120 :: a :: b :: rest =>
      (strictBytes rounds rest).map (Utf8.encode "\\u00" ++ [a, b] ++ ·)
    | 92 :: 48 :: rest => (strictBytes rounds rest).map (Utf8.encode "\\u0000" ++ ·)
    | 92 :: 13 :: 10 :: rest => strictBytes rounds rest
    | 92 :: 13 :: rest => strictBytes rounds rest
    | 92 :: 10 :: rest => strictBytes rounds rest
    | 92 :: 226 :: 128 :: c :: rest =>
      if c = 168 ∨ c = 169 then strictBytes rounds rest else none
    | 92 :: c :: rest => (strictBytes rounds rest).map ([92, c] ++ ·)
    | c :: rest =>
      if c = 92 then none
      else (strictBytes rounds rest).map ((if c < 32 then controlBytes c else [c]) ++ ·)
    | [] => some []

/-- A text between quotes. -/
def labelBytes (label : Label) : Option Bytes :=
  match label.form with
  | .plain => some (34 :: label.bytes ++ [34])
  | .escaped => some (34 :: label.bytes ++ [34])
  | .lenient => (strictBytes (label.bytes.length + 1) label.bytes).map (34 :: · ++ [34])
  | .raw => some (quotedBytes label.bytes)

/-! ## Numbers -/

/-- A number to base sixteen as its decimal digits. -/
def hexNumberBytes (bytes : Bytes) : Option Bytes :=
  let isBelow := bytes.head? = some 45
  let hasSign := isBelow || bytes.head? = some 43
  let digits := bytes.drop (if hasSign then 3 else 2)
  let sign : Bytes := if isBelow then [45] else []
  if bytes.isEmpty || !digits.all (isHexDigit ·.toNat) then none
  else
    let value := hexValue digits
    let isGreat := 0x10000000000000000 ≤ value
    some (sign ++ Utf8.encode (if isGreat then "9.0e999" else toString value))

/-- The digits that a number has, with a zero wherever one is missing beside the point. -/
def pointedBytes : Bytes → Bytes
  | [] => []
  | 46 :: rest =>
    if rest.head?.any (isDigit ·.toNat) then 46 :: pointedBytes rest
    else 46 :: 48 :: pointedBytes rest
  | byte :: rest => byte :: pointedBytes rest

/-- A number without the leniency with which it is written. -/
def numberBytes (isReal isLenient : Bool) (bytes : Bytes) : Option Bytes :=
  if bytes.isEmpty then none
  else if !isLenient then some bytes
  else if !isReal then hexNumberBytes bytes
  else
    let sign : Bytes := if bytes.head? = some 45 then [45] else []
    let digits := if bytes.head? = some 45 then bytes.drop 1 else bytes
    some (sign ++ (if digits.head? = some 46 then [48] else []) ++ pointedBytes digits)

/-! ## Values -/

/-- Things with commas between them. -/
def separatedBytes : List Bytes → Bytes
  | [] => []
  | [bytes] => bytes
  | bytes :: rest => bytes ++ 44 :: separatedBytes rest

mutual

/-- A value without blanks; nothing if it cannot be written. -/
def write? : JsonTree → Option Bytes
  | null => some (Utf8.encode "null")
  | yes => some (Utf8.encode "true")
  | no => some (Utf8.encode "false")
  | number isReal isLenient bytes => numberBytes isReal isLenient bytes
  | text label => labelBytes label
  | list items => do return 91 :: separatedBytes (← writeItems? items) ++ [93]
  | members items => do return 123 :: separatedBytes (← writeMembers? items) ++ [125]

/-- The items of a list. -/
def writeItems? : List JsonTree → Option (List Bytes)
  | [] => some []
  | item :: rest => do return (← write? item) :: (← writeItems? rest)

/-- Members with their labels. -/
def writeMembers? : List (Label × JsonTree) → Option (List Bytes)
  | [] => some []
  | (label, item) :: rest => do
    let name ← labelBytes label
    return (name ++ 58 :: (← write? item)) :: (← writeMembers? rest)

end

/-- Lines with a comma behind all but the last, each further in than what is around. -/
def indented (indent : Bytes) (depth : Nat) (opening closing : UInt8) (items : List Bytes) : Bytes :=
  let margin (depth : Nat) : Bytes := (List.replicate depth indent).flatten
  if items.isEmpty then [opening, closing]
  else
    let lines := items.map (margin (depth + 1) ++ ·)
    let rec joined : List Bytes → Bytes
      | [] => []
      | [line] => line
      | line :: rest => line ++ 44 :: 10 :: joined rest
    opening :: 10 :: joined lines ++ 10 :: margin depth ++ [closing]

mutual

/-- A value with each item on a line of its own. -/
def writeLines? (indent : Bytes) (depth : Nat) : JsonTree → Option Bytes
  | list items => do
    return indented indent depth 91 93 (← itemLines? indent (depth + 1) items)
  | members items => do
    return indented indent depth 123 125 (← memberLines? indent (depth + 1) items)
  | json => json.write?

/-- The items of a list, each on lines of its own. -/
def itemLines? (indent : Bytes) (depth : Nat) : List JsonTree → Option (List Bytes)
  | [] => some []
  | item :: rest => do
    return (← writeLines? indent depth item) :: (← itemLines? indent depth rest)

/-- Members with their labels, each on lines of its own. -/
def memberLines? (indent : Bytes) (depth : Nat) : List (Label × JsonTree) → Option (List Bytes)
  | [] => some []
  | (label, item) :: rest => do
    let name ← labelBytes label
    return (name ++ 58 :: 32 :: (← writeLines? indent depth item)) ::
      (← memberLines? indent depth rest)

end

end JsonTree
end AppCatalog
