import AppCatalog.Decimal.Shortest
import AppCatalog.Settings.Basic
import AppCatalog.Text.Quoted

/-!
# Decoding settings

From the tree of a document to settings. Keys that are not known are ignored, keys that are
missing keep the built-in choice, and of several values that do not fit the first one in
document order is reported. A section may also be an array, whose items fill the settings of the
section in the order in which they are declared.
-/

namespace AppCatalog

/-- What a setting may have to be. -/
inductive Expected where
  | text
  | path
  | port
  | count
  | truth
  | server
  | database
  deriving Repr, DecidableEq

/-- How a message names what was expected. -/
def Expected.message : Expected → String
  | text => "a string"
  | path => "path string"
  | port => "u16"
  | count => "u32"
  | truth => "a boolean"
  | server => "struct ServerConfig"
  | database => "struct DatabaseConfig"

/-- What was found instead: as much of a value as a message shows. -/
inductive Found where
  | text (value : String)
  | integer (value : Int)
  | float (value : Double)
  | boolean (value : Bool)
  | sequence
  | map
  deriving Repr, DecidableEq

/-- How a message names what was found. -/
def Found.message : Found → String
  | text value => "string " ++ Text.quoted value
  | integer value => "integer \x60" ++ toString value ++ "\x60"
  | float value => "floating point \x60" ++ value.text ++ "\x60"
  | boolean value => "boolean \x60" ++ (if value then "true" else "false") ++ "\x60"
  | sequence => "sequence"
  | map => "map"

/-- What a message shows of a value. A date or time is taken for a table. -/
def Found.ofValue : Toml.Value → Found
  | .text value => text value
  | .integer value => integer value
  | .float value => float value
  | .boolean value => boolean value
  | .dateTime => map
  | .array _ => sequence
  | .table _ => map

/-- Why a value does not fit. -/
inductive Mismatch where
  /-- The value is of another kind. -/
  | wrongKind (found : Found) (expected : Expected)
  /-- The value is a whole number out of range. -/
  | outOfRange (value : Int) (expected : Expected)
  deriving Repr, DecidableEq

/-- The message of a mismatch. -/
def Mismatch.message : Mismatch → String
  | wrongKind found expected =>
    "invalid type: " ++ found.message ++ ", expected " ++ expected.message
  | outOfRange value expected =>
    "invalid value: " ++ (Found.integer value).message ++ ", expected " ++ expected.message

namespace Toml.Value

/-! ## Single settings -/

/-- A text. -/
def asText (expected : Expected) : Value → Except Mismatch String
  | text value => .ok value
  | value => .error (.wrongKind (.ofValue value) expected)

/-- A whole number below a limit. -/
def asNat (expected : Expected) (limit : Nat) : Value → Except Mismatch Nat
  | integer value =>
    if 0 ≤ value ∧ value < limit then .ok value.toNat else .error (.outOfRange value expected)
  | value => .error (.wrongKind (.ofValue value) expected)

/-- A port number. -/
def asPort (value : Value) : Except Mismatch UInt16 :=
  (value.asNat .port UInt16.size).map Nat.toUInt16

/-- A count of 32 bits. -/
def asCount (value : Value) : Except Mismatch UInt32 :=
  (value.asNat .count UInt32.size).map Nat.toUInt32

/-- A truth value. -/
def asTruth : Value → Except Mismatch Bool
  | boolean value => .ok value
  | value => .error (.wrongKind (.ofValue value) .truth)

end Toml.Value

open Toml (Entries)

/-- The item at a position of an array, decoded, or the built-in choice if there is none. -/
def itemOr {α : Type} (items : List Toml.Value) (position : Nat)
    (decode : Toml.Value → Except Mismatch α) (builtIn : α) : Except Mismatch α :=
  match items[position]? with
  | none => .ok builtIn
  | some value => decode value

/-! ## Sections -/

namespace ServerSettings

/-- The settings with one entry of the section taken into account. -/
def put (settings : ServerSettings) (key : String) (value : Toml.Value) :
    Except Mismatch ServerSettings :=
  if key = "bind_address" then do
    return { settings with bindAddress := ← value.asText .text }
  else if key = "port" then do
    return { settings with port := ← value.asPort }
  else
    .ok settings

/-- The settings that the entries of the section choose. -/
def ofEntries (entries : Entries) : Except Mismatch ServerSettings :=
  entries.foldlM (fun settings entry => settings.put entry.1 entry.2) {}

/-- The settings that the items of an array choose. -/
def ofItems (items : List Toml.Value) : Except Mismatch ServerSettings := do
  let builtIn : ServerSettings := {}
  let bindAddress ← itemOr items 0 (·.asText .text) builtIn.bindAddress
  let port ← itemOr items 1 (·.asPort) builtIn.port
  return { bindAddress, port }

/-- The settings that the value of the section chooses. -/
def ofValue : Toml.Value → Except Mismatch ServerSettings
  | .table entries => ofEntries entries
  | .dateTime => .ok {}
  | .array items => ofItems items
  | value => .error (.wrongKind (.ofValue value) .server)

end ServerSettings

namespace DatabaseSettings

/-- The settings with one entry of the section taken into account. -/
def put (settings : DatabaseSettings) (key : String) (value : Toml.Value) :
    Except Mismatch DatabaseSettings :=
  if key = "backend" then do
    return { settings with backend := ← value.asText .text }
  else if key = "path" then do
    return { settings with path := ← value.asText .path }
  else if key = "max_connections" then do
    return { settings with maxConnections := ← value.asCount }
  else if key = "enable_wal" then do
    return { settings with enableWal := ← value.asTruth }
  else
    .ok settings

/-- The settings that the entries of the section choose. -/
def ofEntries (entries : Entries) : Except Mismatch DatabaseSettings :=
  entries.foldlM (fun settings entry => settings.put entry.1 entry.2) {}

/-- The settings that the items of an array choose. -/
def ofItems (items : List Toml.Value) : Except Mismatch DatabaseSettings := do
  let builtIn : DatabaseSettings := {}
  let backend ← itemOr items 0 (·.asText .text) builtIn.backend
  let path ← itemOr items 1 (·.asText .path) builtIn.path
  let maxConnections ← itemOr items 2 (·.asCount) builtIn.maxConnections
  let enableWal ← itemOr items 3 (·.asTruth) builtIn.enableWal
  return { backend, path, maxConnections, enableWal }

/-- The settings that the value of the section chooses. -/
def ofValue : Toml.Value → Except Mismatch DatabaseSettings
  | .table entries => ofEntries entries
  | .dateTime => .ok {}
  | .array items => ofItems items
  | value => .error (.wrongKind (.ofValue value) .database)

end DatabaseSettings

/-! ## Documents -/

namespace Settings

/-- The settings with one top-level entry taken into account. -/
def put (settings : Settings) (key : String) (value : Toml.Value) : Except Mismatch Settings :=
  if key = "server" then do
    return { settings with server := ← ServerSettings.ofValue value }
  else if key = "database" then do
    return { settings with database := ← DatabaseSettings.ofValue value }
  else
    .ok settings

/-- The settings that a document's table chooses. -/
def ofEntries (entries : Entries) : Except Mismatch Settings :=
  entries.foldlM (fun settings entry => settings.put entry.1 entry.2) builtIn

end Settings
end AppCatalog
