import AppCatalog.Text.Utf8

/-!
# Responses

The answers to requests. A response leaves with the size of its body; the answer to a request
for the head alone keeps the size but not the body.
-/

namespace AppCatalog

/-- The outcome of a request. -/
inductive Status where
  | ok
  | badRequest
  | notFound
  | methodNotAllowed
  | payloadTooLarge
  | targetTooLong
  | internalServerError
  deriving Repr, DecidableEq

/-- The number of an outcome. -/
def Status.code : Status → Nat
  | ok => 200
  | badRequest => 400
  | notFound => 404
  | methodNotAllowed => 405
  | payloadTooLarge => 413
  | targetTooLong => 414
  | internalServerError => 500

/-- The phrase of an outcome. -/
def Status.phrase : Status → String
  | ok => "OK"
  | badRequest => "Bad Request"
  | notFound => "Not Found"
  | methodNotAllowed => "Method Not Allowed"
  | payloadTooLarge => "Payload Too Large"
  | targetTooLong => "URI Too Long"
  | internalServerError => "Internal Server Error"

/-- A response. -/
structure Response where
  status : Status
  /-- The names, in small letters, and the values of the headers. -/
  headers : List (String × String) := []
  body : Bytes := []
  deriving Repr, DecidableEq

namespace Response

/-- A response whose body is a text of a kind. -/
def typed (status : Status) (kind text : String) : Response where
  status := status
  headers := [("content-type", kind)]
  body := Utf8.encode text

/-- A response of plain text. -/
def plain (status : Status) (text : String) : Response :=
  typed status "text/plain; charset=utf-8" text

/-- A response of a page. -/
def html (text : String) : Response :=
  typed .ok "text/html; charset=utf-8" text

/-- A response of data. -/
def json (text : String) : Response :=
  typed .ok "application/json" text

/-- The response with the size of its body among its headers. -/
def sized (response : Response) : Response :=
  { response with
    headers := ("content-length", toString response.body.length) :: response.headers }

/-- The response without its body. -/
def headOnly (response : Response) : Response :=
  { response with body := [] }

end Response
end AppCatalog
