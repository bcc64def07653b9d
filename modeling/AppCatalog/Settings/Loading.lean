import AppCatalog.Files.Basic
import AppCatalog.Settings.Decoding
import AppCatalog.Toml.Document

/-!
# Loading settings

Settings from a file, if it exists, and the built-in ones otherwise. A file that exists must be
readable, well-formed and fitting.
-/

namespace AppCatalog

/-- Why the text of a file cannot be read. -/
inductive ReadError where
  | file (cause : FileError)
  | notUtf8
  deriving Repr, DecidableEq

/-- The message of an error. -/
def ReadError.message : ReadError → String
  | file cause => cause.message
  | notUtf8 => "stream did not contain valid UTF-8"

/-- Why settings cannot be loaded from the file of that path. -/
inductive LoadError where
  | unreadable (path : String) (cause : ReadError)
  /-- The file is not a well-formed document. -/
  | malformed (path : String)
  /-- A value does not fit. -/
  | unfit (path : String) (cause : Mismatch)
  deriving Repr, DecidableEq

/-- The message of an error. -/
def LoadError.message : LoadError → String
  | unreadable path _ => "Failed to read config file: " ++ path
  | malformed path => "Failed to parse config file: " ++ path
  | unfit path _ => "Failed to parse config file: " ++ path

/-- The text of the file that a path leads to. -/
def Files.readText (files : Files) (path : String) : Except ReadError String :=
  match files.read (.ofText path) with
  | .error cause => .error (.file cause)
  | .ok (.database ..) => .error .notUtf8
  | .ok (.bytes bytes) =>
    match Utf8.decode? bytes with
    | some text => .ok text
    | none => .error .notUtf8

namespace Settings

/-- The settings that the text of a file chooses. -/
def ofText (path text : String) : Except LoadError Settings :=
  match Toml.parse? text with
  | none => .error (.malformed path)
  | some entries =>
    match ofEntries entries with
    | .error cause => .error (.unfit path cause)
    | .ok settings => .ok settings

/-- The settings of the file of that path, or the built-in ones if nothing is there. -/
def load (files : Files) (path : String) : Except LoadError Settings :=
  if files.pathExists (.ofText path) then
    match files.readText path with
    | .error cause => .error (.unreadable path cause)
    | .ok text => ofText path text
  else
    .ok builtIn

/-- The paths at which settings are looked for, the first one that exists taken. -/
def searchPaths : List String :=
  ["./byteshop.toml", "/etc/byteshop/config.toml"]

/-- The settings of the first of the usual files that exists, or the built-in ones. -/
def loadDefault (files : Files) : Except LoadError Settings :=
  match searchPaths.find? fun path => files.pathExists (.ofText path) with
  | some path => load files path
  | none => .ok builtIn

end Settings
end AppCatalog
