import Mathlib.Tactic.Lemma
import AppCatalog.Http.Router

/-!
# How requests are dispatched

What a request asks of a store is settled before the store is asked: its method, path, query and
body name one call or none, and the answer to that call is all that the response may depend on.

* **The call of a request** (`Request.call?`) is read off the request alone.
* **A plan asks for a call** (`Plan.Asks`) if it makes that call and no other, and comes to a given
  failure exactly if the call fails. From this follow the calls of a run
  (`Plan.Asks.calls_eq`) and when it fails (`Plan.Asks.run_eq_failure_iff`), over every backend.
* **Every answer asks for the call of its request** (`Router.answer_asks`).
* **The law of dispatch** (`Router.DispatchLaw`) spells this out for each path and method, and
  holds of every request over every backend.
-/

namespace AppCatalog

variable {σ : Type}

/-! ## Routes and their paths -/

namespace Route

/-- A route is found at its own path. -/
lemma at?_of_eq_path {path : Bytes} (route : Route) (at_route : path = Utf8.encode route.path) :
    at? path = some route := by
  rw [at_route]
  cases route <;> decide

/-- Only its own path leads to a route. -/
lemma eq_path_of_at? {path : Bytes} {route : Route} (found : at? path = some route) :
    path = Utf8.encode route.path := by
  unfold at? at found
  simpa [eq_comm] using List.find?_some found

/-- There is no route at a path that is none of theirs. -/
lemma at?_eq_none {path : Bytes} (unknown : ∀ route : Route, path ≠ Utf8.encode route.path) :
    at? path = none := by
  rcases found : at? path with _ | route
  · rfl
  · exact absurd (eq_path_of_at? found) (unknown route)

end Route

/-! ## The call of a request -/

/-- The identifier that a query asks for: its first parameter of that name, if that is not the
empty text. -/
def Params.wanted? (params : Params) : Option String :=
  (params.get? "identifier").filter (· ≠ "")

/-- An identifier that is not empty is wanted. -/
lemma Params.wanted?_of_get? {params : Params} {identifier : String} (named : identifier ≠ "")
    (found : params.get? "identifier" = some identifier) : params.wanted? = some identifier := by
  unfold wanted?
  rw [found, Option.filter_some, if_pos (by simpa using named)]

/-- Nothing is wanted without an identifier, or with an empty one. -/
lemma Params.wanted?_of_getOrEmpty {params : Params}
    (unnamed : params.getOrEmpty "identifier" = "") : params.wanted? = none := by
  unfold getOrEmpty at unnamed
  unfold wanted?
  rcases found : params.get? "identifier" with _ | identifier
  · rfl
  · rw [found] at unnamed
    have empty : identifier = "" := unnamed
    rw [empty]
    rfl

/-- The upload that a query and a body describe together. -/
def Upload.ofParts (query : Option Bytes) (body : Bytes) : Upload :=
  ((Params.ofQuery query).chain (.parse body)).upload

/-- The call that showing a route makes. -/
def Route.shownCall? (route : Route) (query : Option Bytes) : Option Call :=
  match route with
  | .listing => some .listAll
  | .source => (Params.ofQuery query).wanted?.map .find
  | .greeting | .upload => none

/-- The call that a request makes, if it makes one. -/
def Request.call? (request : Request) : Option Call :=
  match request.method, Route.at? request.target.path with
  | .get, some route | .head, some route => route.shownCall? request.target.query
  | .post, some .upload =>
    if maxUploadBytes < request.body.length then none
    else some (.insert (.ofParts request.target.query request.body))
  | _, _ => none

namespace Request

variable {request : Request} {route : Route}

/-- A request that shows a route makes the call of that route. -/
lemma call?_of_shown (found : Route.at? request.target.path = some route)
    (shown : request.method = .get ∨ request.method = .head) :
    request.call? = route.shownCall? request.target.query := by
  unfold call?
  rw [found]
  rcases shown with isGet | isHead
  · rw [isGet]
  · rw [isHead]

/-- A request that sends an upload makes one call, unless the body is too long. -/
lemma call?_of_upload (found : Route.at? request.target.path = some .upload)
    (isPost : request.method = .post) :
    request.call? = if maxUploadBytes < request.body.length then none
      else some (.insert (.ofParts request.target.query request.body)) := by
  unfold call?
  rw [found, isPost]

end Request

/-! ## Plans of one call -/

/-- Whether a plan makes exactly one given call, or none, and comes to the given failure, which is
an internal error, exactly if that call fails. -/
inductive Plan.Asks (failure : Response) : Option Call → Plan Response → Prop
  | nothing {response : Response} (sound : response.status ≠ .internalServerError) :
      Asks failure none (.done response)
  | once (call : Call) (respond : Except StoreError call.Answer → Response)
      (sound : ∀ outcome, (respond (.ok outcome)).status ≠ .internalServerError)
      (failed : ∀ cause, respond (.error cause) = failure) :
      Asks failure (some call) (.ask call fun answer => .done (respond answer))

namespace Plan.Asks

variable {failure : Response} {call? : Option Call} {plan : Plan Response}

/-- Changing the outcome of a plan, but not its status, changes the failure likewise. -/
lemma map {f : Response → Response} (status_eq : ∀ response, (f response).status = response.status)
    (asks : Asks failure call? plan) : Asks (f failure) call? (plan.map f) := by
  cases asks with
  | nothing sound =>
      refine .nothing ?_
      rw [status_eq]
      exact sound
  | once call respond sound failed =>
      refine .once call (fun answer => f (respond answer)) (fun outcome => ?_) fun cause => ?_
      · rw [status_eq]
        exact sound outcome
      · rw [failed]

/-- A plan makes the call that it asks for and no other. -/
lemma calls_eq (asks : Asks failure call? plan) (backend : Backend σ) (state : σ) :
    plan.calls backend state = call?.toList := by
  cases asks <;> rfl

/-- A plan leaves the state that its call leaves. -/
lemma state_eq (asks : Asks failure call? plan) (backend : Backend σ) (state : σ) :
    (plan.run backend state).2 = call?.elim state fun call => (backend state call).2 := by
  cases asks <;> rfl

/-- A plan ends in an internal error exactly if its call fails. -/
lemma status_iff (asks : Asks failure call? plan) (failing : failure.status = .internalServerError)
    (backend : Backend σ) (state : σ) :
    (plan.run backend state).1.status = .internalServerError ↔
      ∃ call cause, call? = some call ∧ (backend state call).1 = .error cause := by
  cases asks with
  | nothing sound => simpa [run] using sound
  | once call respond sound failed =>
      show (respond (backend state call).1).status = _ ↔ _
      rcases answered : (backend state call).1 with cause | outcome
      · rw [failed, failing]
        exact ⟨fun _ => ⟨call, cause, rfl, answered⟩, fun _ => rfl⟩
      · constructor
        · intro fails
          exact absurd fails (sound outcome)
        · rintro ⟨_, cause, ⟨⟩, failed⟩
          rw [answered] at failed
          cases failed

/-- A plan whose call fails comes to the failure. -/
lemma run_eq_failure {call : Call} (asks : Asks failure (some call) plan) {backend : Backend σ}
    {state : σ} {cause : StoreError} (refused : (backend state call).1 = .error cause) :
    (plan.run backend state).1 = failure := by
  cases asks with
  | once call respond sound failed =>
      show respond (backend state call).1 = failure
      rw [refused, failed]

/-- **A plan comes to its failure exactly if its call fails.** -/
lemma run_eq_failure_iff (asks : Asks failure call? plan)
    (failing : failure.status = .internalServerError) (backend : Backend σ) (state : σ) :
    (plan.run backend state).1 = failure ↔
      ∃ call cause, call? = some call ∧ (backend state call).1 = .error cause := by
  constructor
  · intro fails
    rw [← asks.status_iff failing, fails, failing]
  · rintro ⟨call, cause, rfl, refused⟩
    exact asks.run_eq_failure refused

end Plan.Asks

/-! ## What routes ask for -/

/-- An identifier that is not empty is looked up. -/
lemma Service.getSource_of_ne {identifier : String} (named : identifier ≠ "") :
    getSource identifier =
      .ask (.find identifier) fun answer => .done (answer.map (Option.map App.source)) :=
  if_neg named

namespace Router

/-- The answer to a request that failed, before its size is known. -/
def failed : Response := .plain .internalServerError "Internal Server Error"

/-- The listing asks for the listing. -/
lemma listing_asks : listing.Asks failed (some .listAll) :=
  .once .listAll (answerOf _) (fun _ => nofun) fun _ => rfl

/-- The source of an app asks for the app, unless there is no identifier to ask for. -/
lemma source_asks (query : Option Bytes) :
    (source query).Asks failed ((Params.ofQuery query).wanted?.map .find) := by
  unfold source Params.wanted?
  rcases (Params.ofQuery query).get? "identifier" with _ | identifier
  · exact .nothing nofun
  · rw [Option.filter_some]
    dsimp only
    by_cases empty : identifier = ""
    · rw [if_neg (by simpa using empty), empty]
      exact .nothing nofun
    · rw [if_pos (by simpa using empty), Service.getSource_of_ne empty]
      exact .once (.find identifier)
        (fun answer : Except StoreError (Option App) =>
          answerOf _ (answer.map (Option.map App.source)))
        (fun _ => nofun) fun _ => rfl

/-- An upload asks for an insertion, unless its body is too long. -/
lemma upload_asks (query : Option Bytes) (body : Bytes) :
    (upload query body).Asks failed
      (if maxUploadBytes < body.length then none else some (.insert (.ofParts query body))) := by
  unfold upload
  split
  · exact .nothing nofun
  · exact .once (.insert _) (answerOf _) (fun _ => nofun) fun _ => rfl

/-- Showing a route asks for what that route shows. -/
lemma view_asks (route : Route) (query : Option Bytes) :
    (view route query).Asks failed (route.shownCall? query) := by
  cases route with
  | greeting => exact .nothing nofun
  | listing => exact listing_asks
  | source => exact source_asks query
  | upload => exact .nothing nofun

/-- What is done for a request asks for the call of that request. -/
lemma respond_asks (request : Request) : (respond request).Asks failed request.call? := by
  unfold respond Request.call?
  rcases Route.at? request.target.path with _ | route
  · rcases request.method with _ | _ | _ | token <;> exact .nothing nofun
  · unfold serve
    rcases request.method with _ | _ | _ | token
    · exact view_asks route _
    · exact view_asks route _
    · cases route with
      | upload => exact upload_asks _ _
      | _ => exact .nothing nofun
    · exact .nothing nofun

/-- The form in which a response leaves keeps its status. -/
@[simp] lemma finish_status (method : Method) (response : Response) :
    (finish method response).status = response.status := by
  unfold finish
  split <;> rfl

/-- **Every answer asks for the call of its request.** -/
lemma answer_asks (request : Request) :
    (answer request).Asks (finish request.method failed) request.call? :=
  (respond_asks request).map (finish_status request.method)

/-! ## Requests that are turned away -/

/-- A path that is none of the four is not found. -/
lemma answer_of_unknown {request : Request} (unknown : Route.at? request.target.path = none) :
    answer request = .done { status := .notFound, headers := [("content-length", "0")] } := by
  unfold answer respond
  rw [unknown]
  show Plan.done (finish request.method _) = _
  unfold finish
  split <;> rfl

/-- A route is refused to a method that it does not serve. -/
lemma answer_of_unserved {request : Request} {route : Route}
    (found : Route.at? request.target.path = some route) (notGet : request.method ≠ .get)
    (notHead : request.method ≠ .head) (notPost : request.method ≠ .post ∨ route ≠ .upload) :
    answer request = .done
      { status := .methodNotAllowed,
        headers := [("content-length", "0"), ("allow", route.allowed)] } := by
  have refused : respond request = .done (refusal route) := by
    unfold respond
    rw [found]
    dsimp only
    unfold serve
    split
    · exact absurd ‹_› notGet
    · exact absurd ‹_› notHead
    · rcases notPost with notPost | notUpload
      · exact absurd ‹_› notPost
      · exact absurd rfl notUpload
    · rfl
  unfold answer
  rw [refused]
  show Plan.done (finish request.method _) = _
  unfold finish
  rw [if_neg notHead]
  cases route <;> rfl

/-- An upload with too long a body is turned away. -/
lemma answer_of_tooLong {request : Request}
    (found : Route.at? request.target.path = some .upload) (isPost : request.method = .post)
    (tooLong : maxUploadBytes < request.body.length) :
    ∃ response : Response,
      response.status = .payloadTooLarge ∧ answer request = .done response := by
  refine ⟨finish request.method (.plain .payloadTooLarge
    "Failed to buffer the request body: length limit exceeded"), finish_status _ _, ?_⟩
  unfold answer respond
  rw [found]
  dsimp only
  unfold serve
  rw [isPost]
  show (upload _ _).map _ = _
  unfold upload
  rw [if_pos tooLong]
  rfl

/-! ## The law -/

/-- The one answer to a request whose call failed. It does not say why. -/
def failureAnswer (method : Method) : Response where
  status := .internalServerError
  headers := [("content-length", "21"), ("content-type", "text/plain; charset=utf-8")]
  body := if method = .head then [] else Utf8.encode "Internal Server Error"

/-- The failure of a plan is that answer. -/
lemma finish_failed (method : Method) : finish method failed = failureAnswer method := by
  unfold finish failureAnswer
  split <;> rfl

/-- What is to be expected of the calls made and the response given for a request. -/
structure DispatchLaw (request : Request) (calls : List Call) (response : Response) : Prop where
  /-- There is at most one call. -/
  at_most_one : calls.length ≤ 1
  /-- No other path than these four is found. -/
  unknown : (∀ known ∈ ["/", "/apps", "/listSource", "/upload"],
      request.target.path ≠ Utf8.encode known) →
    calls = [] ∧ response = { status := .notFound, headers := [("content-length", "0")] }
  /-- Three of them are only shown. -/
  unserved : ∀ known ∈ ["/", "/apps", "/listSource"], request.target.path = Utf8.encode known →
    request.method ≠ .get → request.method ≠ .head →
      calls = [] ∧ response =
        { status := .methodNotAllowed,
          headers := [("content-length", "0"), ("allow", "GET,HEAD")] }
  /-- To the fourth there may be posted. -/
  upload_unserved : request.target.path = Utf8.encode "/upload" → request.method ≠ .get →
    request.method ≠ .head → request.method ≠ .post →
      calls = [] ∧ response =
        { status := .methodNotAllowed,
          headers := [("content-length", "0"), ("allow", "GET,HEAD,POST")] }
  /-- Two of them are shown without a call. -/
  page : ∀ known ∈ ["/", "/upload"], request.target.path = Utf8.encode known →
    request.method = .get ∨ request.method = .head → calls = []
  /-- The apps are shown by the listing. -/
  apps : request.target.path = Utf8.encode "/apps" →
    request.method = .get ∨ request.method = .head → calls = [.listAll]
  /-- A source is looked for if the first identifier is not empty. -/
  named_source : request.target.path = Utf8.encode "/listSource" →
    request.method = .get ∨ request.method = .head →
      ∀ identifier ≠ "", (Params.ofQuery request.target.query).get? "identifier" = some identifier →
        calls = [.find identifier]
  /-- No source is looked for if there is no identifier or the first one is empty. -/
  unnamed_source : request.target.path = Utf8.encode "/listSource" →
    request.method = .get ∨ request.method = .head →
      (Params.ofQuery request.target.query).getOrEmpty "identifier" = "" → calls = []
  /-- An upload with too long a body is not stored. -/
  long_upload : request.target.path = Utf8.encode "/upload" → request.method = .post →
    2097152 < request.body.length → calls = [] ∧ response.status = .payloadTooLarge
  /-- Any other upload is stored once, with the first value of each field or else the empty text;
  the query comes before the body. -/
  upload : request.target.path = Utf8.encode "/upload" → request.method = .post →
    request.body.length ≤ 2097152 →
      let params := (Params.ofQuery request.target.query).pairs ++ (Params.parse request.body).pairs
      calls = [.insert
        { identifier := (params.lookup "identifier").getD "",
          name := (params.lookup "name").getD "",
          description := (params.lookup "description").getD "",
          source := (params.lookup "source").getD "" }]

/-- Requests that agree in method, path, query and body are answered alike. -/
lemma answer_congr {request other : Request} (method_eq : other.method = request.method)
    (target_eq : other.target = request.target) (body_eq : other.body = request.body) :
    answer other = answer request := by
  unfold answer respond serve
  rw [method_eq, target_eq, body_eq]

/-- What is expected of the calls and the response of every request holds over every backend. -/
lemma dispatchLaw (backend : Backend σ) (state : σ) (request : Request) :
    DispatchLaw request ((answer request).calls backend state)
      ((answer request).run backend state).1 := by
  have calls_eq := (answer_asks request).calls_eq backend state
  have shown_eq : ∀ route : Route, request.target.path = Utf8.encode route.path →
      request.method = .get ∨ request.method = .head →
        (answer request).calls backend state = (route.shownCall? request.target.query).toList := by
    intro route at_route shown
    rw [calls_eq, Request.call?_of_shown (Route.at?_of_eq_path route at_route) shown]
  constructor
  case at_most_one =>
    rw [calls_eq]
    cases request.call? <;> simp
  case unknown =>
    intro unknown
    have nowhere : Route.at? request.target.path = none :=
      Route.at?_eq_none fun route => unknown route.path (by cases route <;> decide)
    rw [answer_of_unknown nowhere]
    exact ⟨rfl, rfl⟩
  case unserved =>
    intro known among at_known notGet notHead
    obtain ⟨route, rfl, notUpload, allowed⟩ :
        ∃ route : Route, route.path = known ∧ route ≠ .upload ∧ route.allowed = "GET,HEAD" := by
      simp only [List.mem_cons, List.not_mem_nil, or_false] at among
      rcases among with rfl | rfl | rfl
      · exact ⟨.greeting, by decide⟩
      · exact ⟨.listing, by decide⟩
      · exact ⟨.source, by decide⟩
    rw [answer_of_unserved (Route.at?_of_eq_path route at_known) notGet notHead (.inr notUpload),
      allowed]
    exact ⟨rfl, rfl⟩
  case upload_unserved =>
    intro at_upload notGet notHead notPost
    rw [answer_of_unserved (Route.at?_of_eq_path .upload at_upload) notGet notHead
      (.inl notPost)]
    exact ⟨rfl, rfl⟩
  case page =>
    intro known among at_known shown
    simp only [List.mem_cons, List.not_mem_nil, or_false] at among
    rcases among with rfl | rfl
    · exact shown_eq .greeting at_known shown
    · exact shown_eq .upload at_known shown
  case apps => exact shown_eq .listing
  case named_source =>
    intro at_source shown identifier named found
    rw [shown_eq .source at_source shown]
    unfold Route.shownCall?
    rw [Params.wanted?_of_get? named found]
    rfl
  case unnamed_source =>
    intro at_source shown unnamed
    rw [shown_eq .source at_source shown]
    unfold Route.shownCall?
    rw [Params.wanted?_of_getOrEmpty unnamed]
    rfl
  case long_upload =>
    intro at_upload isPost tooLong
    obtain ⟨response, status_eq, answer_eq⟩ :=
      answer_of_tooLong (Route.at?_of_eq_path .upload at_upload) isPost tooLong
    rw [answer_eq]
    exact ⟨rfl, status_eq⟩
  case upload =>
    intro at_upload isPost fits
    have short : ¬ maxUploadBytes < request.body.length := Nat.not_lt.mpr fits
    rw [calls_eq, Request.call?_of_upload (Route.at?_of_eq_path .upload at_upload) isPost,
      if_neg short]
    rfl

/-- **The law of dispatch.** Over every backend a request makes at most one call. Which one, and
what is answered, depends on its method, path, query and body only. It is answered with the one
failure exactly if the call that it made came to an error, whichever. -/
theorem dispatch_law (backend : Backend σ) (state : σ) (request : Request) :
    DispatchLaw request ((answer request).calls backend state)
        ((answer request).run backend state).1 ∧
      (∀ other : Request, other.method = request.method →
        other.target.path = request.target.path → other.target.query = request.target.query →
        other.body = request.body →
          (answer other).calls backend state = (answer request).calls backend state ∧
            (answer other).run backend state = (answer request).run backend state) ∧
      (((answer request).run backend state).1 = failureAnswer request.method ↔
        ∃ call cause, (answer request).calls backend state = [call] ∧
          (backend state call).1 = .error cause) ∧
      (((answer request).run backend state).1.status = .internalServerError ↔
        ∃ call cause, (answer request).calls backend state = [call] ∧
          (backend state call).1 = .error cause) := by
  have asks := answer_asks request
  rw [finish_failed] at asks
  have one_call : ∀ call, request.call? = some call ↔
      (answer request).calls backend state = [call] := by
    intro call
    rw [asks.calls_eq backend state]
    cases request.call? <;> simp
  refine ⟨dispatchLaw backend state request, ?_, ?_, ?_⟩
  · intro other method_eq path_eq query_eq body_eq
    have target_eq : other.target = request.target := by
      rcases other with ⟨_, ⟨path, query⟩, _, _⟩
      cases path_eq
      cases query_eq
      rfl
    rw [answer_congr method_eq target_eq body_eq]
    exact ⟨rfl, rfl⟩
  · simp only [← one_call]
    exact asks.run_eq_failure_iff rfl backend state
  · simp only [← one_call]
    exact asks.status_iff rfl backend state

end Router
end AppCatalog
