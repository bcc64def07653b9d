import Mathlib.Tactic.Lemma
import AppCatalog.Proofs.Http.Dispatch
import AppCatalog.Proofs.Store.Ledger

/-!
# What requests do to a ledger

Over the ledger the meaning of a request can be read off: an upload that is taken goes behind the
others, and nothing else changes anything.

* **An upload that is taken** (`Request.upload?`) is posted to the one route that takes uploads,
  with a body that is not too long.
* **One request, many requests** (`Router.state_ledger`, `Router.state_runAll_ledger`): the ledger
  grows by the uploads that are taken.
* **Answers** (`Router.upload_ledger`, `Router.listing_ledger`, `Router.named_source_ledger`,
  `Router.unnamed_source_ledger`) show the ledger as it stands.
-/

namespace AppCatalog

/-! ## Uploads that are taken -/

/-- The upload that a request sends, if it is one that is taken. -/
def Request.upload? (request : Request) : Option Upload :=
  if request.method = .post ∧ request.target.path = Utf8.encode "/upload" ∧
      request.body.length ≤ maxUploadBytes then
    some (.ofParts request.target.query request.body)
  else none

namespace Request

variable {request : Request} {upload : Upload}

/-- A request for an upload that is taken is posted to its route, and short enough. -/
lemma of_upload? (taken : request.upload? = some upload) :
    request.method = .post ∧ Route.at? request.target.path = some .upload ∧
      ¬ maxUploadBytes < request.body.length ∧
      upload = .ofParts request.target.query request.body := by
  unfold upload? at taken
  split at taken
  · obtain ⟨isPost, at_upload, short⟩ := ‹_ ∧ _›
    cases taken
    exact ⟨isPost, Route.at?_of_eq_path .upload at_upload, Nat.not_lt.mpr short, rfl⟩
  · cases taken

/-- An upload that is taken is inserted. -/
lemma call?_of_upload? (taken : request.upload? = some upload) :
    request.call? = some (.insert upload) := by
  obtain ⟨isPost, found, short, rfl⟩ := of_upload? taken
  rw [call?_of_upload found isPost, if_neg short]

/-- Nothing is inserted but an upload that is taken. -/
lemma upload?_of_call? (inserts : request.call? = some (.insert upload)) :
    request.upload? = some upload := by
  have shows_nothing : ∀ (route : Route) (query : Option Bytes),
      route.shownCall? query ≠ some (.insert upload) := by
    intro route query
    cases route with
    | source =>
        unfold Route.shownCall?
        cases (Params.ofQuery query).wanted? <;> nofun
    | _ => nofun
  unfold call? at inserts
  split at inserts
  · exact absurd inserts (shows_nothing _ _)
  · exact absurd inserts (shows_nothing _ _)
  · split at inserts
    · cases inserts
    · cases inserts
      exact if_pos ⟨‹_›, Route.eq_path_of_at? ‹_›, Nat.not_lt.mp ‹_›⟩
  · cases inserts

/-- Where no upload is taken nothing is inserted. -/
lemma call?_ne_insert (refused : request.upload? = none) (upload : Upload) :
    request.call? ≠ some (.insert upload) := by
  intro inserts
  rw [upload?_of_call? inserts] at refused
  cases refused

end Request

/-! ## The ledger after requests -/

namespace Router

/-- **The ledger after a request** has the upload that was taken behind the others. -/
lemma state_ledger (request : Request) (uploads : List Upload) :
    ((answer request).run ledger uploads).2 = uploads ++ request.upload?.toList := by
  rw [(answer_asks request).state_eq]
  rcases taken : request.upload? with _ | upload
  · rcases asked : request.call? with _ | _ | _ | upload
    · exact (List.append_nil _).symm
    · exact (List.append_nil _).symm
    · exact (List.append_nil _).symm
    · exact absurd asked (Request.call?_ne_insert taken upload)
  · rw [Request.call?_of_upload? taken]
    rfl

/-- **The ledger after many requests** has all uploads that were taken, in their order. -/
lemma state_runAll_ledger (requests : List Request) (uploads : List Upload) :
    (Plan.runAll ledger (requests.map answer) uploads).2 =
      uploads ++ requests.filterMap Request.upload? :=
  Plan.state_runAll_ledger state_ledger requests uploads

/-! ## Answers over a ledger -/

variable {request : Request} {uploads : List Upload}

/-- Showing a route is answered with what that route shows. -/
lemma answer_of_get {route : Route} (found : Route.at? request.target.path = some route)
    (isGet : request.method = .get) :
    answer request = (view route request.target.query).map Response.sized := by
  unfold answer respond
  rw [found]
  dsimp only
  unfold serve
  rw [isGet]
  rfl

/-- An upload that is taken is acknowledged. -/
lemma upload_ledger {upload : Upload} (taken : request.upload? = some upload) :
    ((answer request).run ledger uploads).1 = (Response.plain .ok "OK").sized := by
  obtain ⟨isPost, found, short, -⟩ := Request.of_upload? taken
  unfold answer respond
  rw [found]
  dsimp only
  unfold serve
  rw [isPost]
  dsimp only
  unfold Router.upload
  rw [if_neg short]
  rfl

/-- The listing shows the ledger in its order. -/
lemma listing_ledger (at_listing : request.target.path = Utf8.encode "/apps")
    (isGet : request.method = .get) :
    ((answer request).run ledger uploads).1 =
      (Response.json (Json.array (uploads.map (·.summary.json))).render).sized := by
  rw [answer_of_get (Route.at?_of_eq_path .listing at_listing) isGet]
  show (Response.json (Json.array ((uploads.map Upload.summary).map Summary.json)).render).sized = _
  rw [List.map_map]
  rfl

/-- The source of the first upload under an identifier is found, or else an empty text. -/
lemma named_source_ledger (at_source : request.target.path = Utf8.encode "/listSource")
    (isGet : request.method = .get) {identifier : String} (named : identifier ≠ "")
    (asked : (Params.ofQuery request.target.query).get? "identifier" = some identifier) :
    ((answer request).run ledger uploads).1 =
      (Response.plain .ok
        (((uploads.find? (·.identifier = identifier)).map Upload.source).getD "")).sized := by
  rw [answer_of_get (Route.at?_of_eq_path .source at_source) isGet]
  unfold view source
  rw [asked]
  dsimp only
  rw [Service.getSource_of_ne named]
  show (answerOf _ (Except.ok (((uploads.find? (·.identifier = identifier)).map
    (·.stamped .blank)).map App.source))).sized = _
  rw [Option.map_map]
  rfl

/-- Without an identifier, or with an empty one, nothing is found. -/
lemma unnamed_source_ledger (at_source : request.target.path = Utf8.encode "/listSource")
    (isGet : request.method = .get)
    (unnamed : (Params.ofQuery request.target.query).getOrEmpty "identifier" = "") :
    ((answer request).run ledger uploads).1 = (Response.plain .ok "").sized := by
  rw [answer_of_get (Route.at?_of_eq_path .source at_source) isGet]
  unfold view source
  unfold Params.getOrEmpty at unnamed
  rcases asked : (Params.ofQuery request.target.query).get? "identifier" with _ | identifier
  · rfl
  · rw [asked] at unnamed
    cases unnamed
    rfl

end Router
end AppCatalog
