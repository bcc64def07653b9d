import AppCatalog.Http.Request
import AppCatalog.Http.Response
import AppCatalog.Text.Digit

/-!
# Requests and responses on a connection

The bytes of HTTP/1.1: a first line, a line for each header, an empty line, and a body as long as
its header says. Each connection carries one request, so every response announces that the
connection is closed behind it.
-/

namespace AppCatalog

namespace Wire

/-- The end of a line. -/
def lineEnd : Bytes := [0x0D, 0x0A]

/-- The version that is written and read. -/
def version : Bytes := Utf8.encode "HTTP/1.1"

/-! ## Writing -/

/-- The line of a header. -/
def headerLine (name value : Bytes) : Bytes :=
  name ++ 0x3A :: 0x20 :: value ++ lineEnd

/-- A target as it is written. -/
def target (target : Target) : Bytes :=
  match target.query with
  | none => target.path
  | some query => target.path ++ 0x3F :: query

/-- The headers with which a request is sent to a host, before those of its own. -/
def sentHeaders (host : Bytes) (request : Request) : List Header :=
  [⟨Utf8.encode "host", host⟩, ⟨Utf8.encode "connection", Utf8.encode "close"⟩,
    ⟨Utf8.encode "content-length", Utf8.encode (toString request.body.length)⟩]

/-- A request as it is sent to a host. -/
def request (host : Bytes) (request : Request) : Bytes :=
  request.method.token ++ 0x20 :: target request.target ++ 0x20 :: version ++ lineEnd
    ++ (sentHeaders host request ++ request.headers).flatMap (fun header =>
      headerLine header.name header.value)
    ++ lineEnd ++ request.body

/-- A response as it is sent. -/
def response (response : Response) : Bytes :=
  version ++ 0x20 :: Utf8.encode (toString response.status.code)
    ++ 0x20 :: Utf8.encode response.status.phrase ++ lineEnd
    ++ response.headers.flatMap (fun (name, value) =>
      headerLine (Utf8.encode name) (Utf8.encode value))
    ++ lineEnd ++ response.body

/-! ## Reading -/

/-- Splits off the first line. -/
def line? : Bytes → Option (Bytes × Bytes)
  | [] => none
  | 0x0D :: 0x0A :: rest => some ([], rest)
  | byte :: rest => (line? rest).map fun (line, rest) => (byte :: line, rest)

/-- A line with its end is part of the bytes that it is split off. -/
theorem length_line?_lt {bytes line rest : Bytes} (split : line? bytes = some (line, rest)) :
    rest.length < bytes.length := by
  fun_induction line? bytes generalizing line with
  | case1 => cases split
  | case2 tail =>
    cases split
    simp +arith
  | case3 byte tail _ ih =>
    obtain ⟨⟨line', rest'⟩, found, same⟩ := Option.map_eq_some_iff.1 split
    cases same
    exact Nat.lt_succ_of_lt (ih found)

/-- Takes a line that is not empty. -/
def headerStep : Text.Step UInt8 Bytes := fun bytes =>
  match line? bytes with
  | some (line, rest) => if line = [] then none else some (line, rest)
  | none => none

/-- Taking a line uses up at least one byte. -/
theorem headerStep_shortens : headerStep.Shortens := by
  intro s item rest taken
  unfold headerStep at taken
  split at taken
  · rename_i line tail found
    split at taken
    · cases taken
    · cases taken
      exact length_line?_lt found
  · cases taken

/-- Whether a byte is a space or a tab. -/
def isBlank (byte : UInt8) : Bool :=
  byte = 0x20 || byte = 0x09

/-- A header from its line, without the blanks around its value. -/
def header? (line : Bytes) : Option Header :=
  match line.dropWhile (· != 0x3A) with
  | [] => none
  | _ :: value =>
    some
      { name := line.takeWhile (· != 0x3A)
        value := ((value.dropWhile isBlank).reverse.dropWhile isBlank).reverse }

/-- A byte as a small letter if it is a letter. -/
def small (byte : UInt8) : UInt8 :=
  if 0x41 ≤ byte ∧ byte ≤ 0x5A then byte + 0x20 else byte

/-- The value of the first header of that name, which is given in small letters. -/
def value? (headers : List Header) (name : String) : Option Bytes :=
  (headers.find? (·.name.map small = Utf8.encode name)).map (·.value)

/-- The number that decimal digits stand for. -/
def number? (bytes : Bytes) : Option Nat :=
  if bytes = [] then none
  else (bytes.mapM fun byte => Text.digit? 10 byte.toNat).map (Text.ofDigits 10)

/-- The length of the body that headers announce; none of a body in chunks. -/
def bodyLength? (headers : List Header) : Option Nat :=
  if (value? headers "transfer-encoding").isSome then none
  else
    match value? headers "content-length" with
    | none => some 0
    | some value => number? value

/-- The outcome of a request that cannot be built. -/
def statusOf : RequestError → Status
  | .invalidTarget .tooLong => .targetTooLong
  | _ => .badRequest

/-- Reads a request off the front of what a connection carries. -/
def readRequest (bytes : Bytes) : Except Status (Request × Bytes) := do
  let some (first, rest) := line? bytes | .error .badRequest
  let [method, target, found] := first.splitOn 0x20 | .error .badRequest
  let (lines, rest) := headerStep.many rest
  let some (_, rest) := line? rest | .error .badRequest
  let some headers := lines.mapM header? | .error .badRequest
  let some length := bodyLength? headers | .error .badRequest
  if found ≠ version ∨ rest.length < length then .error .badRequest
  let request ← (Request.build method target headers (rest.take length)).mapError statusOf
  return (request, rest.drop length)

end Wire

/-- The response that also says that its connection is closed behind it. -/
def Response.closing (response : Response) : Response :=
  { response with headers := ("connection", "close") :: response.headers }

end AppCatalog
