import AppCatalog.Text.Utf8

/-!
# Paths

A path is a sequence of bytes with slashes between names. Empty names do not count; a slash at
the end counts as one more step that stays in place, so that it can only follow a directory. The
parent of a path is a part of its bytes: what is written of it keeps its repeated slashes and its
dots, and their number matters where the length of a path is limited.
-/

namespace AppCatalog

/-- A file name. -/
abbrev Name : Type := Bytes

/-- The absolute place of a file or directory: the names from the root. -/
abbrev Place : Type := List Name

namespace Place

/-- The number of bytes of the shortest path to a place. -/
def byteCount : Place → Nat
  | [] => 0
  | name :: names => 1 + name.length + byteCount names

/-- The place in the same directory whose name has more at its end. -/
def beside (place : Place) (ending : String) : Place :=
  place.dropLast ++ [place.getLast?.getD [] ++ Utf8.encode ending]

end Place

/-- The greatest number of bytes of a file name. -/
def maxNameBytes : Nat := 255

/-- The number of bytes that no path reaches. -/
def pathBytesLimit : Nat := 4096

/-- Whether a file name has too many bytes. -/
def nameTooLong (name : Name) : Bool :=
  maxNameBytes < name.length

/-- What leads to a file or directory. -/
structure Path where
  bytes : Bytes
  deriving Repr, DecidableEq

namespace Path

/-- The path that a text is. -/
def ofText (text : String) : Path :=
  ⟨Utf8.encode text⟩

/-- The slash between names. -/
def slash : UInt8 := 0x2F

/-- The name that stays in place. -/
def here : Name := [0x2E]

/-- The name that goes one step up. -/
def up : Name := [0x2E, 0x2E]

/-- Whether the path starts at the root and not at the working directory. -/
def isAbsolute (path : Path) : Bool :=
  path.bytes.head? = some slash

/-- The names to follow, `.` and `..` among them. -/
def names (path : Path) : List Name :=
  let names := (path.bytes.splitOn slash).filter (!·.isEmpty)
  if path.bytes.getLast? = some slash ∧ names ≠ [] then names ++ [here] else names

/-! ## Parents -/

/-- Whether what stands between two slashes leads nowhere. -/
def isIdle (segment : Name) : Bool :=
  segment = [] || segment = here

/-- The segments up to the last one that leads somewhere. -/
def upToLast (segments : List Name) : List Name :=
  (segments.reverse.dropWhile isIdle).reverse

/-- The segments up to the last one that counts: a dot at the start of a relative path does. -/
def counting (absolute : Bool) (segments : List Name) : List Name :=
  match absolute, segments with
  | false, [0x2E] :: segments => here :: upToLast segments
  | _, segments => upToLast segments

/-- The path one step up, by its bytes alone; none for a path in which nothing counts. -/
def parent? (path : Path) : Option Path :=
  let root := if path.isAbsolute then [slash] else []
  match counting path.isAbsolute ((path.bytes.drop root.length).splitOn slash) with
  | [] => none
  | segments =>
    some ⟨root ++ [slash].intercalate (counting path.isAbsolute segments.dropLast)⟩

end Path
end AppCatalog
