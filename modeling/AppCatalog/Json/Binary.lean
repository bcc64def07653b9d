import AppCatalog.Json.Writing

/-!
# Structured values as plain bytes

A structured value as bytes that need no reading of texts: a byte with the kind and the size of
what follows, as many bytes for the size as it takes, and then the content, which for lists and
members is the same again and again.
-/

namespace AppCatalog
namespace JsonTree

/-! ## Writing -/

/-- The bytes before content of some size. -/
def header (kind size : Nat) : Bytes :=
  let sized (code count : Nat) : Bytes :=
    (kind + 16 * code).toUInt8 :: (Block.ofNumber count size).toList
  if size ≤ 11 then [(kind + 16 * size).toUInt8]
  else if size ≤ 0xFF then sized 12 1
  else if size ≤ 0xFFFF then sized 13 2
  else sized 14 4

/-- Content of some kind with its header. -/
def node (kind : Nat) (content : Bytes) : Bytes := header kind content.length ++ content

/-- The kind of a text. -/
def formCode : TextForm → Nat
  | .plain => 7
  | .escaped => 8
  | .lenient => 9
  | .raw => 10

/-- A text as plain bytes. -/
def labelNode (label : Label) : Bytes := node (formCode label.form) label.bytes

mutual

/-- A value as plain bytes. -/
def toBinary : JsonTree → Bytes
  | null => [0]
  | yes => [1]
  | no => [2]
  | number isReal isLenient bytes =>
    node (3 + (if isReal then 2 else 0) + if isLenient then 1 else 0) bytes
  | text label => labelNode label
  | list items => node 11 (itemsToBinary items)
  | members items => node 12 (membersToBinary items)

/-- The items of a list as plain bytes. -/
def itemsToBinary : List JsonTree → Bytes
  | [] => []
  | item :: rest => toBinary item ++ itemsToBinary rest

/-- Members as plain bytes. -/
def membersToBinary : List (Label × JsonTree) → Bytes
  | [] => []
  | (label, item) :: rest => labelNode label ++ toBinary item ++ membersToBinary rest

end

/-! ## Reading -/

/-- The kind, the content and the rest of what starts with a header. -/
def split? (bytes : Bytes) : Option (Nat × Bytes × Bytes) :=
  match bytes with
  | [] => none
  | first :: rest =>
    let kind := first.toNat % 16
    let code := first.toNat / 16
    let count := if code ≤ 11 then 0 else Nat.pow 2 (code - 12)
    let size := if code ≤ 11 then code else
      (rest.take count).foldl (fun value byte => value * 256 + byte.toNat) 0
    let content := rest.drop count
    if rest.length < count ∨ content.length < size then none
    else some (kind, content.take size, content.drop size)

/-- The form of a text of some kind, if it is one. -/
def formOf? (kind : Nat) : Option TextForm :=
  match kind with
  | 7 => some .plain
  | 8 => some .escaped
  | 9 => some .lenient
  | 10 => some .raw
  | _ => none

mutual

/-- Reads a value off the front. -/
def takeBinary? : (rounds : Nat) → Bytes → Option (JsonTree × Bytes)
  | 0, _ => none
  | rounds + 1, bytes => do
    let (kind, content, rest) ← split? bytes
    let json ← match kind with
      | 0 => some null
      | 1 => some yes
      | 2 => some no
      | 3 => some (number false false content)
      | 4 => some (number false true content)
      | 5 => some (number true false content)
      | 6 => some (number true true content)
      | 11 => (itemsOfBinary? rounds content).map list
      | 12 => (membersOfBinary? rounds content).map members
      | kind => (formOf? kind).map fun form => text ⟨form, content⟩
    return (json, rest)

/-- Reads the items of a list. -/
def itemsOfBinary? : (rounds : Nat) → Bytes → Option (List JsonTree)
  | 0, _ => none
  | _, [] => some []
  | rounds + 1, bytes => do
    let (item, rest) ← takeBinary? rounds bytes
    return item :: (← itemsOfBinary? rounds rest)

/-- Reads members. -/
def membersOfBinary? : (rounds : Nat) → Bytes → Option (List (Label × JsonTree))
  | 0, _ => none
  | _, [] => some []
  | rounds + 1, bytes => do
    let (kind, content, rest) ← split? bytes
    let form ← formOf? kind
    let (item, rest) ← takeBinary? rounds rest
    return (⟨form, content⟩, item) :: (← membersOfBinary? rounds rest)

end

/-- Whether bytes look like a structured value from outside. -/
def isBinary (bytes : Bytes) : Bool :=
  match split? bytes with
  | some (kind, content, rest) => kind ≤ 12 && rest.isEmpty && (2 < kind || content.isEmpty)
  | none => false

/-- The structured value that bytes are, if they are one. -/
def ofBinary? (bytes : Bytes) : Option JsonTree :=
  (takeBinary? (2 * bytes.length + 2) bytes).map (·.1)

end JsonTree
end AppCatalog
