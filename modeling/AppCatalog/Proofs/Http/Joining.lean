import AppCatalog.Proofs.Form.Joining
import AppCatalog.Proofs.Http.Acceptance

/-!
# Uploads that are split

An upload may be sent in the query of its request, in its body, or partly in either. It does not
matter where it is split: the query and the body are read as one list of parameters.

* **The parameters** (`Params.ofQuery_chain_parse`) of a query and a body are those of one text.
* **A request that posts them** (`Router.answer_of_posts`) does the same as one that posts that text
  as its body (`Router.query_and_body_are_one_list`).
-/

namespace AppCatalog

/-- The parameters of a query and a body are those of both with an ampersand between them. -/
lemma Params.ofQuery_chain_parse (query body : Bytes) :
    (ofQuery (some query)).chain (parse body) = parse (query ++ 0x26 :: body) :=
  (parse_append query body).symm

/-- An upload in a query and a body is the one in both with an ampersand between them. -/
lemma Upload.ofParts_some (query body : Bytes) :
    ofParts (some query) body = ofParts none (query ++ 0x26 :: body) := by
  unfold ofParts
  rw [Params.ofQuery_chain_parse]
  rfl

/-- Whether a request posts a query and a body to the route that takes uploads. -/
structure Request.Posts (request : Request) (query : Option Bytes) (body : Bytes) : Prop where
  method : request.method = .post
  target : request.target = ⟨Utf8.encode "/upload", query⟩
  body : request.body = body

namespace Router

/-- What is done for a request that posts an upload. -/
lemma answer_of_posts {request : Request} {query : Option Bytes} {body : Bytes}
    (posts : request.Posts query body) :
    answer request = (upload query body).map (finish .post) := by
  have found : Route.at? request.target.path = some .upload := by
    rw [posts.target]
    exact Route.at?_of_eq_path .upload rfl
  unfold answer respond
  rw [found]
  dsimp only
  unfold serve
  rw [posts.method, posts.target, posts.body]

/-- Taking an upload from a query and a body is taking it from both with an ampersand between them,
if that is not too long. -/
lemma upload_some {query body : Bytes} (fits : (query ++ 0x26 :: body).length ≤ maxUploadBytes) :
    upload (some query) body = upload none (query ++ 0x26 :: body) := by
  have bodyFits : body.length ≤ maxUploadBytes := by
    rw [List.length_append, List.length_cons] at fits
    omega
  unfold upload
  rw [if_neg (Nat.not_lt.mpr bodyFits), if_neg (Nat.not_lt.mpr fits), Params.ofQuery_chain_parse]
  rfl

/-- An upload that is not too long is inserted, over every backend. -/
lemma calls_of_posts {σ : Type} {request : Request} {query : Option Bytes} {body : Bytes}
    (posts : request.Posts query body) (fits : body.length ≤ maxUploadBytes) (backend : Backend σ)
    (state : σ) :
    (answer request).calls backend state = [.insert (.ofParts query body)] := by
  have taken : request.upload? = some (.ofParts query body) := by
    unfold Request.upload?
    rw [posts.method, posts.target, posts.body]
    exact if_pos ⟨rfl, rfl, fits⟩
  rw [(answer_asks request).calls_eq, Request.call?_of_upload? taken]
  rfl

/-- **A query and a body are one list of parameters.** Bytes with an ampersand between them, however
ill-formed, hold the parameters of the first ones followed by those of the second ones, and a lookup
takes the first parameter of its name; so parts may be joined or chained. What stands between two
ampersands comes to one parameter at most, and changes no other. An upload may be split between the
query and the body of a request at any ampersand: over every backend, and in every state of it, the
same fields are stored and the same is answered as if all of it stood in the body. -/
theorem query_and_body_are_one_list :
    (∀ first second : Bytes,
      Params.parse (first ++ 0x26 :: second) = (Params.parse first).chain (Params.parse second)) ∧
    (∀ (first second : Bytes) (name : String),
      ((Params.parse first).chain (Params.parse second)).get? name =
        (((Params.parse first).pairs.find? (·.1 = name)).or
          ((Params.parse second).pairs.find? (·.1 = name))).map Prod.snd) ∧
    (∀ parts : List Bytes,
      (parts.map Params.parse).foldl Params.chain Params.empty =
        Params.parse ([0x26].intercalate parts)) ∧
    (∀ piece : Bytes, 0x26 ∉ piece →
      ∃ own : List (String × String), own.length ≤ 1 ∧ ∀ before after : Bytes,
        (Params.parse (before ++ 0x26 :: (piece ++ 0x26 :: after))).pairs =
          (Params.parse before).pairs ++ own ++ (Params.parse after).pairs) ∧
    (∀ query body : Bytes, (query ++ 0x26 :: body).length ≤ 2097152 →
      ∀ split joined : Request, split.Posts (some query) body →
        joined.Posts none (query ++ 0x26 :: body) →
          ∀ {σ : Type} (backend : Backend σ) (state : σ),
            (answer split).calls backend state = [.insert (.ofParts (some query) body)] ∧
              (answer joined).calls backend state = [.insert (.ofParts (some query) body)] ∧
              (answer split).run backend state = (answer joined).run backend state) := by
  refine ⟨Params.parse_append, fun first second => Params.get?_chain_eq_find? _ _,
    fun parts => (Params.parse_intercalate parts).symm, ?_, ?_⟩
  · intro piece single
    refine ⟨(Params.parse piece).pairs, Params.length_parse_le_one single, fun before after => ?_⟩
    rw [Params.parse_append, Params.parse_append]
    exact (List.append_assoc _ _ _).symm
  · intro query body fits split joined splitPosts joinedPosts σ backend state
    have bodyFits : body.length ≤ maxUploadBytes := by
      rw [List.length_append, List.length_cons] at fits
      unfold maxUploadBytes
      omega
    refine ⟨calls_of_posts splitPosts bodyFits backend state, ?_, ?_⟩
    · rw [calls_of_posts joinedPosts fits backend state, Upload.ofParts_some]
    · rw [answer_of_posts splitPosts, answer_of_posts joinedPosts, upload_some fits]

/-- An upload that is split in the middle of a character, and ends in the middle of an escape. -/
theorem query_and_body_are_one_list_at_seam :
    let query := Utf8.encode "identifier=a&name=%C3"
    let body := Utf8.encode "%A9&source=1%"
    let split : Request := ⟨.post, ⟨Utf8.encode "/upload", some query⟩, [], body⟩
    let joined : Request := ⟨.post, ⟨Utf8.encode "/upload", none⟩, [], query ++ 0x26 :: body⟩
    (answer split).run ledger [] = (answer joined).run ledger [] ∧
      ((answer joined).run ledger []).2 = [⟨"a", "\uFFFD", "", "1%"⟩] := by
  intro query body split joined
  refine ⟨?_, by decide⟩
  obtain ⟨-, -, -, -, split_eq_joined⟩ := query_and_body_are_one_list
  exact (split_eq_joined query body (by decide) split joined ⟨rfl, rfl, rfl⟩ ⟨rfl, rfl, rfl⟩
    ledger []).2.2

end Router
end AppCatalog
