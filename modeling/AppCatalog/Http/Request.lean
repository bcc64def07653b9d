import AppCatalog.Http.Target
import Std.Data.HashSet

/-!
# Requests

A request is built from bytes: a method, a target, headers and a body. The parts are checked in
that order, a header's name before its value, and the first fault is reported. Headers may repeat,
but the number of different names is limited.
-/

namespace AppCatalog

/-- Whether a byte may stand in a method or in the name of a header. -/
def isTokenByte (byte : UInt8) : Bool :=
  Target.isLetter byte || Target.isDigit byte
    || byte ∈ [0x21, 0x23, 0x24, 0x25, 0x26, 0x27, 0x2A, 0x2B, 0x2D, 0x2E, 0x5E, 0x5F, 0x60,
      0x7C, 0x7E]

/-- Whether bytes are a non-empty word of token bytes. -/
def isToken (bytes : Bytes) : Bool :=
  !bytes.isEmpty && bytes.all isTokenByte

/-! ## Methods -/

/-- What a request wants done. -/
inductive Method where
  | get
  | head
  | post
  /-- Any other word. -/
  | other (token : Bytes)
  deriving Repr, DecidableEq

namespace Method

/-- The word of a method. -/
def token : Method → Bytes
  | get => Utf8.encode "GET"
  | head => Utf8.encode "HEAD"
  | post => Utf8.encode "POST"
  | other token => token

/-- The method of a word; upper and lower case are different. -/
def ofToken? (bytes : Bytes) : Option Method :=
  if isToken bytes then
    some (([get, head, post].find? (·.token = bytes)).getD (other bytes))
  else none

end Method

/-! ## Headers -/

/-- A header as it was sent. -/
structure Header where
  name : Bytes
  value : Bytes
  deriving Repr, DecidableEq

/-- The greatest number of bytes of the name of a header. -/
def maxHeaderName : Nat := 65535

/-- Whether bytes are the name of a header. -/
def isHeaderName (bytes : Bytes) : Bool :=
  isToken bytes && bytes.length ≤ maxHeaderName

/-- Whether a byte may stand in the value of a header: anything but a control, and a tab. -/
def isHeaderValueByte (byte : UInt8) : Bool :=
  (0x20 ≤ byte && byte != 0x7F) || byte = 0x09

/-! ## Requests -/

/-- A request. -/
structure Request where
  method : Method
  target : Target
  headers : List Header
  body : Bytes
  deriving Repr, DecidableEq

/-- Why a request cannot be built. -/
inductive RequestError where
  | invalidMethod
  | invalidTarget (cause : TargetError)
  | invalidHeaderName
  | invalidHeaderValue
  | tooManyHeaders
  deriving Repr, DecidableEq

/-- The message of an error. -/
def RequestError.message : RequestError → String
  | invalidMethod => "invalid HTTP method"
  | invalidTarget cause => cause.message
  | invalidHeaderName => "invalid HTTP header name"
  | invalidHeaderValue => "failed to parse header value"
  | tooManyHeaders => "max size reached"

/-- The number of different header names after which no further header fits. -/
def maxHeaderNames : Nat := 0x6000

/-- The small form of an ASCII letter; other bytes stay as they are. -/
def lowerByte (byte : UInt8) : UInt8 :=
  if 0x41 ≤ byte && byte ≤ 0x5A then byte + 0x20 else byte

/-- Checks a header behind others, whose names are given, and adds its name to theirs. -/
def Header.check (names : Std.HashSet Bytes) (header : Header) :
    Except RequestError (Std.HashSet Bytes) :=
  if !isHeaderName header.name then .error .invalidHeaderName
  else if !header.value.all isHeaderValueByte then .error .invalidHeaderValue
  else if maxHeaderNames ≤ names.size then .error .tooManyHeaders
  else .ok (names.insert (header.name.map lowerByte))

/-- Builds a request from its parts. -/
def Request.build (method target : Bytes) (headers : List Header) (body : Bytes) :
    Except RequestError Request := do
  match Method.ofToken? method with
  | none => .error .invalidMethod
  | some method =>
    let target ← (Target.parse target).mapError .invalidTarget
    let _ ← headers.foldlM Header.check ∅
    return { method, target, headers, body }

end AppCatalog
