import AppCatalog.Text.Utf8

/-!
# Request targets

The four written forms of a target: a path with a query, an absolute form with a scheme and an
authority before them, an authority alone, and an asterisk. Of all that only the path and the
query are kept. They stay as they are written: nothing is decoded and no path is simplified.
-/

namespace AppCatalog

/-- What a request asks for. -/
structure Target where
  /-- The path as it is written; empty if the target is an authority alone. -/
  path : Bytes
  /-- The query as it is written, if there is a question mark. -/
  query : Option Bytes
  deriving Repr, DecidableEq

/-- Why bytes are no target. -/
inductive TargetError where
  | empty
  | tooLong
  | invalidCharacter
  | invalidAuthority
  | invalidFormat
  | schemeTooLong
  deriving Repr, DecidableEq

/-- The message of an error. -/
def TargetError.message : TargetError → String
  | empty => "empty string"
  | tooLong => "uri too long"
  | invalidCharacter => "invalid uri character"
  | invalidAuthority => "invalid authority"
  | invalidFormat => "invalid format"
  | schemeTooLong => "scheme too long"

namespace Target

/-- The greatest number of bytes of a target. -/
def maxBytes : Nat := 65534

/-- The greatest number of bytes of a scheme. -/
def maxSchemeBytes : Nat := 64

/-- The number of colons at which an authority is given up. -/
def maxColons : Nat := 8

/-! ## Classes of bytes -/

/-- Whether a byte is an ASCII letter. -/
def isLetter (byte : UInt8) : Bool :=
  (0x41 ≤ byte && byte ≤ 0x5A) || (0x61 ≤ byte && byte ≤ 0x7A)

/-- Whether a byte is an ASCII digit. -/
def isDigit (byte : UInt8) : Bool :=
  0x30 ≤ byte && byte ≤ 0x39

/-- Whether an ASCII byte may stand in a path. -/
def isPathByte (byte : UInt8) : Bool :=
  byte = 0x21 || byte = 0x22 || (0x24 ≤ byte && byte ≤ 0x3B) || byte = 0x3D
    || (0x40 ≤ byte && byte ≤ 0x5F) || (0x61 ≤ byte && byte ≤ 0x7E)

/-- Whether an ASCII byte may stand in a query. -/
def isQueryByte (byte : UInt8) : Bool :=
  byte = 0x21 || (0x24 ≤ byte && byte ≤ 0x3B) || byte = 0x3D || (0x3F ≤ byte && byte ≤ 0x7E)

/-- Whether a byte is part of a character beyond ASCII. -/
def isWide (byte : UInt8) : Bool :=
  0x80 ≤ byte

/-- Whether a byte may stand in a scheme. -/
def isSchemeByte (byte : UInt8) : Bool :=
  isLetter byte || isDigit byte || byte ∈ [0x2B, 0x2D, 0x2E, 0x7E]

/-- Whether a byte ends an authority. -/
def endsAuthority (byte : UInt8) : Bool :=
  byte ∈ [0x23, 0x2F, 0x3F]

/-- Whether a byte without a meaning of its own may stand in an authority. -/
def isAuthorityByte (byte : UInt8) : Bool :=
  isLetter byte || isDigit byte
    || byte ∈ [0x21, 0x24, 0x26, 0x27, 0x28, 0x29, 0x2A, 0x2B, 0x2C, 0x2D, 0x2E, 0x3B, 0x3D,
      0x5F, 0x7E]

/-! ## Path and query -/

/-- The bytes before the fragment. -/
def withoutFragment (bytes : Bytes) : Bytes :=
  bytes.takeWhile (· != 0x23)

/-- Reads a path and a query; a fragment is dropped without a look at it. -/
def ofPathAndQuery (bytes : Bytes) : Except TargetError Target :=
  let shown := withoutFragment bytes
  let path := shown.takeWhile (· != 0x3F)
  let query := shown.dropWhile (· != 0x3F)
  if path.all (fun byte => isPathByte byte || isWide byte)
      && (query.drop 1).all (fun byte => isQueryByte byte || isWide byte)
      && (Utf8.decode? shown).isSome then
    .ok { path, query := if query = [] then none else some (query.drop 1) }
  else .error .invalidCharacter

/-! ## Scheme and authority -/

/-- What is left after a scheme, a colon and two slashes; none if the bytes do not start so. The
scheme may be empty, but then something must follow. -/
def afterScheme? (bytes : Bytes) : Except TargetError (Option Bytes) :=
  match bytes.dropWhile isSchemeByte with
  | 0x3A :: 0x2F :: 0x2F :: rest =>
    if bytes.length ≤ 3 then .ok none
    else if maxSchemeBytes < (bytes.takeWhile isSchemeByte).length then .error .schemeTooLong
    else .ok (some rest)
  | _ => .ok none

/-- What is remembered of an authority while it is read. -/
structure AuthorityScan where
  /-- The colons that are not part of a user name or of a host in brackets. -/
  colons : Nat := 0
  /-- Whether there was an opening bracket. -/
  opened : Bool := false
  /-- Whether there was a closing bracket. -/
  closed : Bool := false
  /-- Whether there was a percent sign outside of a user name and of brackets. -/
  percent : Bool := false

/-- Reads one byte of an authority. -/
def AuthorityScan.read (scan : AuthorityScan) (byte : UInt8) : Except TargetError AuthorityScan :=
  if byte = 0x3A then
    if maxColons ≤ scan.colons then .error .invalidAuthority
    else .ok { scan with colons := scan.colons + 1 }
  else if byte = 0x5B then
    if scan.percent || scan.opened then .error .invalidAuthority
    else .ok { scan with opened := true }
  else if byte = 0x5D then
    if !scan.opened || scan.closed then .error .invalidAuthority
    else .ok { scan with closed := true, colons := 0, percent := false }
  else if byte = 0x40 then .ok { scan with colons := 0, percent := false }
  else if byte = 0x25 then .ok { scan with percent := true }
  else if isAuthorityByte byte then .ok scan
  else .error .invalidCharacter

/-- Splits off an authority, which may be empty. Brackets must match, at most one colon may
lead to a port, and something must follow a user name. -/
def splitAuthority (bytes : Bytes) : Except TargetError (Bytes × Bytes) := do
  let authority := bytes.takeWhile (!endsAuthority ·)
  let scan ← authority.foldlM AuthorityScan.read {}
  if scan.opened != scan.closed || 1 < scan.colons || scan.percent
      || authority.getLast? = some 0x40 then
    .error .invalidAuthority
  else return (authority, bytes.dropWhile (!endsAuthority ·))

/-- The target of an authority alone. -/
def authorityOnly : Target := ⟨[], none⟩

/-- Reads a target that does not start with a slash. -/
def ofFullForm (bytes : Bytes) : Except TargetError Target := do
  match ← afterScheme? bytes with
  | none =>
    let (_, rest) ← splitAuthority bytes
    if rest = [] then return authorityOnly else .error .invalidFormat
  | some bytes =>
    let (authority, rest) ← splitAuthority bytes
    if bytes = [] then .error .empty
    else if authority = [] then .error .invalidFormat
    else
      let target ← ofPathAndQuery rest
      return if target.path = [] then { target with path := [0x2F] } else target

/-- Reads a target. A single byte other than a slash or an asterisk must be an authority. -/
def parse (bytes : Bytes) : Except TargetError Target :=
  if maxBytes < bytes.length then .error .tooLong
  else
    match bytes with
    | [] => .error .empty
    | 0x2F :: _ => ofPathAndQuery bytes
    | [0x2A] => .ok ⟨bytes, none⟩
    | [byte] => do
      let (_, rest) ← splitAuthority [byte]
      if rest = [] then return authorityOnly else .error .invalidCharacter
    | _ => ofFullForm bytes

end Target
end AppCatalog
