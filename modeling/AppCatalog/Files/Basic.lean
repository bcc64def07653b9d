import AppCatalog.Database.Migration
import AppCatalog.Files.Path

/-!
# Files

Directories and files as a value. A file holds plain bytes or a database; a database is not
looked at as bytes. Paths are followed name by name from the root or the working directory.
-/

namespace AppCatalog

/-- Why a path cannot be followed or made. -/
inductive FileError where
  | absent
  | alreadyExists
  | notDirectory
  | isDirectory
  | nameTooLong
  | nulByte
  deriving Repr, DecidableEq

/-- The message of an error. -/
def FileError.message : FileError → String
  | absent => "No such file or directory (os error 2)"
  | alreadyExists => "File exists (os error 17)"
  | notDirectory => "Not a directory (os error 20)"
  | isDirectory => "Is a directory (os error 21)"
  | nameTooLong => "File name too long (os error 36)"
  | nulByte => "file name contained an unexpected NUL byte"

/-- What a file holds. -/
inductive Content where
  | bytes (bytes : Bytes)
  /-- A database, and whether it writes ahead to a log. -/
  | database (wal : Bool) (db : Database)
  deriving Repr, DecidableEq

/-- What is at a place. -/
inductive Node where
  | directory
  | file (content : Content)
  deriving Repr, DecidableEq

/-- A file system as a program sees it. -/
structure Files where
  /-- The working directory. -/
  home : Place
  /-- What is at each place other than the root, which is a directory. -/
  node? : Place → Option Node

namespace Files

/-- A file system with an empty working directory, its parents, and nothing else. -/
def fresh (home : Place) : Files where
  home := home
  node? place := if place.isPrefixOf home then some .directory else none

/-- What is at a place. -/
def at? (files : Files) (place : Place) : Option Node :=
  if place = [] then some .directory else files.node? place

/-- The file system with a node put at a place. -/
def set (files : Files) (place : Place) (node : Node) : Files :=
  { files with node? := fun other => if other = place then some node else files.node? other }

/-- The file system without what is at a place. -/
def remove (files : Files) (place : Place) : Files :=
  { files with node? := fun other => if other = place then none else files.node? other }

/-- A node is found where it was put. -/
theorem at?_set_self (files : Files) {place : Place} (below : place ≠ []) (node : Node) :
    (files.set place node).at? place = some node := by
  simp [at?, set, below]

/-- Putting a node changes no other place. -/
theorem at?_set_of_ne (files : Files) {place other : Place} (apart : other ≠ place)
    (node : Node) : (files.set place node).at? other = files.at? other := by
  simp [at?, set, apart]

/-- Removing a node leaves nothing at its place. -/
theorem at?_remove_self (files : Files) {place : Place} (below : place ≠ []) :
    (files.remove place).at? place = none := by
  simp [at?, remove, below]

/-- Removing a node changes no other place. -/
theorem at?_remove_of_ne (files : Files) {place other : Place} (apart : other ≠ place) :
    (files.remove place).at? other = files.at? other := by
  simp [at?, remove, apart]

/-- Where a path starts. -/
def start (files : Files) (path : Path) : Place :=
  if path.isAbsolute then [] else files.home

/-! ## Following a path -/

/-- Follows names from a directory to a place and what is there, if anything: only the last name
may be of nothing, and only the last but for `.` and `..` of a file. -/
def walk (files : Files) : (here : Place) → List Name → Except FileError (Place × Option Node)
  | here, [] => .ok (here, some .directory)
  | here, name :: names =>
    if name = Path.here then walk files here names
    else if name = Path.up then walk files here.dropLast names
    else if nameTooLong name then .error .nameTooLong
    else
      let place := here ++ [name]
      match files.at? place with
      | some .directory => walk files place names
      | some (.file content) =>
        if names = [] then .ok (place, some (.file content)) else .error .notDirectory
      | none => if names = [] then .ok (place, none) else .error .absent

/-- The place that a path leads to and what is there. -/
def resolve (files : Files) (path : Path) : Except FileError (Place × Option Node) :=
  if 0 ∈ path.bytes then .error .nulByte
  else if pathBytesLimit ≤ path.bytes.length then .error .nameTooLong
  else if path.bytes = [] then .error .absent
  else files.walk (files.start path) path.names

/-- Whether a path leads to something. -/
def pathExists (files : Files) (path : Path) : Bool :=
  match files.resolve path with
  | .ok (_, some _) => true
  | _ => false

/-- The content of the file that a path leads to. -/
def read (files : Files) (path : Path) : Except FileError Content :=
  match files.resolve path with
  | .ok (_, some (.file content)) => .ok content
  | .ok (_, some .directory) => .error .isDirectory
  | .ok (_, none) => .error .absent
  | .error error => .error error

/-- Writes a file of plain bytes in a directory that exists. -/
def write (files : Files) (path : Path) (bytes : Bytes) : Except FileError Files :=
  match files.resolve path with
  | .ok (_, some .directory) => .error .isDirectory
  | .ok (place, _) => .ok (files.set place (.file (.bytes bytes)))
  | .error error => .error error

/-! ## Making directories -/

/-- Makes the directories that are missing along names, from a directory. A file on the way
stops it. Behind a directory that was `made` each name is made on its own, so a file there
exists already; ahead of it that is said of the last name only. -/
def makeAlong (files : Files) :
    (made : Bool) → (here : Place) → List Name → Except FileError Unit × Files
  | _, _, [] => (.ok (), files)
  | made, here, name :: names =>
    if name = Path.here then makeAlong files made here names
    else if name = Path.up then makeAlong files made here.dropLast names
    else if nameTooLong name then (.error .nameTooLong, files)
    else
      let place := here ++ [name]
      match files.at? place with
      | some .directory => makeAlong files made place names
      | some (.file _) =>
        (.error (if made ∨ names = [] then .alreadyExists else .notDirectory), files)
      | none => makeAlong (files.set place .directory) true place names

/-- Makes a directory with its parents, unless they exist. -/
def makeDirectories (files : Files) (path : Path) : Except FileError Unit × Files :=
  if 0 ∈ path.bytes then (.error .nulByte, files)
  else if pathBytesLimit ≤ path.bytes.length then (.error .nameTooLong, files)
  else files.makeAlong false (files.start path) path.names

end Files
end AppCatalog
