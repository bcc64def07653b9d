import AppCatalog.Http.Request
import AppCatalog.Http.Response
import AppCatalog.Json
import AppCatalog.Store.Service

/-!
# The router

What each request is answered, as a plan over any store. There are four routes, each found by its
path byte for byte: a greeting, the listing, the source of an app, and the upload. All of them
are shown, and to one apps can be sent. A failing store is answered without a reason.
-/

namespace AppCatalog

/-! ## Texts -/

/-- The greeting. -/
def greeting : String := "The Byte Shop"

/-- The answer to an upload that was stored. -/
def uploadAck : String := "OK"

/-- The page with the upload form. -/
def uploadForm : String :=
  "\n".intercalate [
    "<!DOCTYPE html>",
    "<html>",
    "<head>",
    "\t<meta charset=\"utf-8\">",
    "\t<title>The Byte Shop - Upload</title>",
    "</head>",
    "<body>",
    "\t<h1>Upload an app</h1>",
    "\t<form action=\"/upload\" method=\"post\">",
    "\t\t<p>",
    "\t\t\t<label for=\"name\">Name</label><br>",
    "\t\t\t<input type=\"text\" id=\"name\" name=\"name\">",
    "\t\t</p>",
    "\t\t<p>",
    "\t\t\t<label for=\"identifier\">Identifier</label><br>",
    "\t\t\t<input type=\"text\" id=\"identifier\" name=\"identifier\">",
    "\t\t</p>",
    "\t\t<p>",
    "\t\t\t<label for=\"description\">Description</label><br>",
    "\t\t\t<input type=\"text\" id=\"description\" name=\"description\">",
    "\t\t</p>",
    "\t\t<p>",
    "\t\t\t<label for=\"source\">Source</label><br>",
    "\t\t\t<textarea id=\"source\" name=\"source\" rows=\"24\" cols=\"80\"></textarea>",
    "\t\t</p>",
    "\t\t<p>",
    "\t\t\t<input type=\"submit\" value=\"Upload\">",
    "\t\t</p>",
    "\t</form>",
    "</body>",
    "</html>"]

/-- The greatest number of bytes of the body of an upload. -/
def maxUploadBytes : Nat := 2097152

/-! ## Failures -/

/-- Why a request that is understood cannot be answered. -/
inductive ServiceError where
  | store (cause : StoreError)
  /-- A page cannot be written. -/
  | template
  deriving Repr, DecidableEq

namespace ServiceError

/-- The message of an error, for the log only. -/
def message : ServiceError → String
  | store cause => "Store error: " ++ cause.message
  | template =>
    "Template error: formatting error: an error occurred when formatting an argument"

/-- The answer to a request that failed, which is the same for every reason. -/
def response (_ : ServiceError) : Response :=
  .plain .internalServerError "Internal Server Error"

end ServiceError

/-! ## Routes -/

/-- The routes. -/
inductive Route where
  | greeting
  | listing
  | source
  | upload
  deriving Repr, DecidableEq

namespace Route

/-- All routes. -/
def all : List Route := [greeting, listing, source, upload]

/-- The path of a route. -/
def path : Route → String
  | greeting => "/"
  | listing => "/apps"
  | source => "/listSource"
  | upload => "/upload"

/-- The route at exactly that path. -/
def at? (path : Bytes) : Option Route :=
  all.find? (Utf8.encode ·.path = path)

/-- The methods that a route serves, as they are listed to one that asks with another. -/
def allowed : Route → String
  | upload => "GET,HEAD,POST"
  | _ => "GET,HEAD"

end Route

/-! ## Answers -/

namespace Router

/-- The answer for an outcome of the store. -/
def answerOf {α : Type} (respond : α → Response) : Except StoreError α → Response
  | .ok outcome => respond outcome
  | .error cause => (ServiceError.store cause).response

/-- The listing. -/
def listing : Plan Response :=
  Service.listApps.map <| answerOf fun apps =>
    .json (Json.array (apps.map Summary.json)).render

/-- The source of the app whose identifier is the first parameter of that name; nothing if there
is no such parameter or no such app. -/
def source (query : Option Bytes) : Plan Response :=
  match (Params.ofQuery query).get? "identifier" with
  | none => .done (.plain .ok "")
  | some identifier =>
    (Service.getSource identifier).map <| answerOf fun found => .plain .ok (found.getD "")

/-- Takes an upload: the parameters of the query come before those of the body, whatever the
body says of its kind. -/
def upload (query : Option Bytes) (body : Bytes) : Plan Response :=
  if maxUploadBytes < body.length then
    .done (.plain .payloadTooLarge "Failed to buffer the request body: length limit exceeded")
  else
    let params := (Params.ofQuery query).chain (.parse body)
    (Service.uploadApp params.upload).map <| answerOf fun _ => .plain .ok uploadAck

/-- Shows a route. -/
def view (route : Route) (query : Option Bytes) : Plan Response :=
  match route with
  | .greeting => .done (.plain .ok greeting)
  | .listing => listing
  | .source => source query
  | .upload => .done (.html uploadForm)

/-- The answer to a method that a route does not serve. -/
def refusal (route : Route) : Response where
  status := .methodNotAllowed
  headers := [("allow", route.allowed)]

/-- The answer of a route, before its size is known. -/
def serve (route : Route) (request : Request) : Plan Response :=
  match request.method, route with
  | .get, route | .head, route => view route request.target.query
  | .post, .upload => upload request.target.query request.body
  | _, route => .done (refusal route)

/-- The answer to a request, before its size is known. -/
def respond (request : Request) : Plan Response :=
  match Route.at? request.target.path with
  | none => .done { status := .notFound }
  | some route => serve route request

/-- The form in which a response leaves. -/
def finish (method : Method) (response : Response) : Response :=
  if method = .head then response.sized.headOnly else response.sized

/-- The answer to a request. -/
def answer (request : Request) : Plan Response :=
  (respond request).map (finish request.method)

end Router
end AppCatalog
