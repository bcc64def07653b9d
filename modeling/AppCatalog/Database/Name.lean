import AppCatalog.Database.Table
import AppCatalog.Files.Path

/-!
# Names of databases

A name is the path of a file, or a private database for the empty name and `:memory:`. A name
that starts with `file:` is a locator: an authority, which must be this machine, a path with
percent escapes, and options that say which rights are wanted, whether the database is a file at
all, and how the file is treated. An escaped zero byte ends the part in which it stands.
-/

namespace AppCatalog

/-- The rights that a name can ask for. -/
inductive Access where
  | read
  | write
  /-- Writing, and creating the file if it is missing. -/
  | create
  /-- All rights to a database that is no file. -/
  | memory
  deriving Repr, DecidableEq

/-- What keeps the databases of a name. -/
inductive Keeper where
  | usual
  /-- Files without locks. -/
  | unlocked
  /-- Files with a lock of one kind only, which is a directory. -/
  | lockedWhole
  /-- Files that only one program uses at a time. -/
  | exclusive
  /-- The memory of the program. -/
  | memory
  deriving Repr, DecidableEq

/-- How a file and its log are used together. -/
inductive Logging where
  /-- A log with an index file beside it. -/
  | indexed
  /-- A log whose index is kept in memory. -/
  | unindexed
  | unsupported
  deriving Repr, DecidableEq

/-- How a database file is used. -/
structure FileUse where
  access : Access
  /-- Whether nothing beside the file is looked at and nothing is written. -/
  immutable : Bool := false
  logging : Logging := .indexed
  /-- Whether a journal that was left behind is noticed. -/
  settles : Bool := true
  /-- A file that must exist, because the permissions of a new file come from it. -/
  model? : Option Path := none
  deriving Repr, DecidableEq

/-- What a name stands for. -/
inductive DatabaseName where
  /-- A database of its own for each connection. -/
  | transient (writable : Bool)
  /-- A database in memory that all connections to that name share. -/
  | shared (keeper : Keeper) (name : Name) (writable : Bool)
  /-- A file. -/
  | file (path : Path) (use : FileUse)
  deriving Repr, DecidableEq

/-! ## Rights and keepers -/

namespace Access

/-- The order in which rights include one another. -/
def rank : Access → Nat
  | read => 1
  | write => 2
  | create => 6
  | memory => 128

/-- The rights of that name. -/
def named? (name : String) : Option Access :=
  [("ro", read), ("rw", write), ("rwc", create), ("memory", memory)].lookup name

/-- Whether one may ask for rights when others are given; all may ask for a database in memory. -/
def mayBecome (given asked : Access) : Bool :=
  asked = memory || asked.rank ≤ given.rank

end Access

/-- The keeper of that name. -/
def Keeper.named? (name : String) : Option Keeper :=
  [("unix", usual), ("unix-none", unlocked), ("unix-dotfile", lockedWhole),
    ("unix-excl", exclusive), ("memdb", memory)].lookup name

/-- How the files of a keeper are used together with their logs. -/
def Keeper.logging : Keeper → Logging
  | usual => .indexed
  | exclusive => .unindexed
  | _ => .unsupported

namespace DatabaseName

/-! ## Options -/

/-- What the options of a locator have said so far. -/
structure Options where
  access : Access
  /-- Whether databases in memory are shared by their names, whatever these are. -/
  sharing : Bool := false
  keeper : String := "unix"
  deriving Repr, DecidableEq

/-- The options with one more. -/
def Options.put (options : Options) (name value : String) : Except SqlError Options :=
  if name = "vfs" then .ok { options with keeper := value }
  else if name = "cache" then
    if value = "shared" then .ok { options with sharing := true }
    else if value = "private" then .ok { options with sharing := false }
    else .error (.unknownOption "cache mode" value)
  else if name = "mode" then
    match Access.named? value with
    | none => .error (.unknownOption "access mode" value)
    | some access =>
      if options.access.mayBecome access then .ok { options with access }
      else .error (.accessNotAllowed value)
  else .ok options

/-- The digits at the start of a text. -/
def digitsOf (base : Nat) (text : List Char) : List Nat :=
  (text.takeWhile fun c => (Text.digit? base c.toNat).isSome).filterMap fun c =>
    Text.digit? base c.toNat

/-- Whether digits mean yes: the number fits into 31 bits and its lowest byte is not zero. -/
def isYesNumber (base : Nat) (digits : List Nat) : Bool :=
  let n := Text.ofDigits base digits
  n < 0x80000000 && n % 0x100 != 0

/-- Whether the value of an option means yes: a number or a word. -/
def isYes (value : String) : Bool :=
  match value.toList with
  | '0' :: 'x' :: text => isYesNumber 16 (digitsOf 16 text)
  | '0' :: 'X' :: text => isYesNumber 16 (digitsOf 16 text)
  | text =>
    match digitsOf 10 text with
    | [] => value.toLower ∈ ["on", "yes", "true"]
    | digits => isYesNumber 10 digits

/-- Whether the first option of that name means yes. -/
def flag (options : List (String × Bytes)) (name : String) : Bool :=
  match options.lookup name with
  | none => false
  | some value => isYes (Utf8.decodeLossy value)

/-! ## Reading a name -/

/-- The bytes that a part of a locator stands for. -/
def decodePart (bytes : Bytes) : Bytes :=
  (Form.percentDecode bytes).takeWhile (· != 0)

/-- The options of a locator, first to last. -/
def optionsOf (bytes : Bytes) : List (String × Bytes) :=
  let options := (Form.pieces bytes).map fun piece =>
    (Utf8.decodeLossy (decodePart (Form.nameOf piece)), decodePart (Form.valueOf piece))
  options.filter (·.1 ≠ "")

/-- What a name stands for, given what its options have said. Under a lock of one kind only, the
reader's own lock looks like that of a program that still needs the journal. -/
def choose (name : Name) (keeper : Keeper) (options : Options) (rest : List (String × Bytes)) :
    DatabaseName :=
  let immutable := flag rest "immutable"
  let unlocked := flag rest "nolock"
  let writable := options.access != .read
  if name = [] then transient writable
  else if options.access = .memory ∨ name = Utf8.encode ":memory:" then
    if options.sharing then shared keeper name writable else transient writable
  else if keeper = .memory then
    if options.sharing ∨ (name.head? = some Path.slash ∧ 1 < name.length) then
      shared keeper name (writable && !immutable)
    else transient (writable && !immutable)
  else
    file ⟨name⟩ {
      access := options.access
      immutable := immutable
      logging := if unlocked then .unsupported else keeper.logging
      settles := unlocked || keeper != .lockedWhole
      model? := (rest.lookup "modeof").map Path.mk }

/-- What is left of a locator after its authority. -/
def afterAuthority (bytes : Bytes) : Except SqlError Bytes :=
  match bytes with
  | 0x2F :: 0x2F :: rest =>
    let authority := rest.takeWhile (· != Path.slash)
    if authority = [] ∨ authority = Utf8.encode "localhost" then
      .ok (rest.dropWhile (· != Path.slash))
    else .error (.foreignAuthority (Utf8.decodeLossy authority))
  | _ => .ok bytes

/-- What a locator stands for, without its scheme. -/
def ofLocator (access : Access) (bytes : Bytes) : Except SqlError DatabaseName := do
  let shown := (← afterAuthority bytes).takeWhile (· != 0x23)
  let name := decodePart (shown.takeWhile (· != 0x3F))
  let rest := optionsOf ((shown.dropWhile (· != 0x3F)).drop 1)
  let options ← rest.foldlM (fun options option =>
    options.put option.1 (Utf8.decodeLossy option.2)) { access := access }
  match Keeper.named? options.keeper with
  | none => .error (.unknownOption "vfs" options.keeper)
  | some keeper => return choose name keeper options rest

/-- The scheme of a locator. -/
def scheme : Bytes := Utf8.encode "file:"

/-- What the bytes of a name stand for when those rights are given. -/
def ofBytes (access : Access) (bytes : Bytes) : Except SqlError DatabaseName :=
  if scheme.isPrefixOf bytes then ofLocator access (bytes.drop scheme.length)
  else .ok (choose bytes .usual { access := access } [])

end DatabaseName
end AppCatalog
