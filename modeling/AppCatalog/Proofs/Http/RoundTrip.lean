import Mathlib.Tactic.Lemma
import AppCatalog.Proofs.Http.History
import AppCatalog.Proofs.Http.Written
import AppCatalog.Proofs.Store.Recorded

/-!
# What is uploaded is found again

An app that is uploaded with a form, whichever way the form is sent, is listed last, and its source
is found under its identifier byte for byte, then and ever after.

* **The fields of an upload** (`Upload.fields`) may be given in any order and be split between the
  query and the body at will (`Upload.ofParts_of_perm`).
* **The two requests** that post a form and ask for a source can be built
  (`Request.build_post`, `Request.build_fetch`).
* **Upload, then fetch** (`Catalog.FindsAgain`) is the identity from every state that a service
  comes to.
-/

namespace AppCatalog

/-! ## Fields in any order -/

/-- The parameters that describe an upload. -/
def Upload.fields (upload : Upload) : List (String × String) :=
  [("identifier", upload.identifier), ("name", upload.name), ("description", upload.description),
    ("source", upload.source)]

/-- If no name is given twice then every parameter is the one that is found under its name. -/
lemma Params.get?_of_mem {params : Params} (distinct : (params.pairs.map Prod.fst).Nodup)
    {name value : String} (among : (name, value) ∈ params.pairs) :
    params.get? name = some value := by
  obtain ⟨pairs⟩ := params
  unfold get?
  dsimp only at distinct among ⊢
  induction pairs with
  | nil => cases among
  | cons pair pairs ih =>
      rw [List.map_cons, List.nodup_cons] at distinct
      rcases List.mem_cons.mp among with rfl | among
      · exact List.lookup_cons_self
      · have other : name ≠ pair.1 := by
          rintro rfl
          exact distinct.1 (List.mem_map.mpr ⟨_, among, rfl⟩)
        rw [List.lookup_cons, beq_false_of_ne other]
        exact ih distinct.2 among

/-- **The fields of an upload describe it in any order.** -/
lemma Params.upload_of_perm {params : Params} {upload : Upload}
    (order : params.pairs.Perm upload.fields) : params.upload = upload := by
  have distinct : (params.pairs.map Prod.fst).Nodup := by
    refine (order.map Prod.fst).nodup_iff.mpr ?_
    show ["identifier", "name", "description", "source"].Nodup
    decide
  have given : ∀ name value, (name, value) ∈ upload.fields → params.getOrEmpty name = value := by
    intro name value among
    unfold getOrEmpty
    rw [get?_of_mem distinct (order.mem_iff.mpr among)]
    rfl
  unfold Params.upload
  rw [given "identifier" upload.identifier (by simp [Upload.fields]),
    given "name" upload.name (by simp [Upload.fields]),
    given "description" upload.description (by simp [Upload.fields]),
    given "source" upload.source (by simp [Upload.fields])]

/-- The parameters of a query that is written down; nothing needs to be written of none. -/
lemma Params.ofQuery_written {pairs : List (String × String)} {query : Option Bytes}
    (written : query = some (Form.serialize pairs) ∨ pairs = [] ∧ query = none) :
    ofQuery query = ⟨pairs⟩ := by
  rcases written with rfl | ⟨rfl, rfl⟩
  · exact parse_serialize pairs
  · rfl

/-- **The fields of an upload may be split** between the query and the body. -/
lemma Upload.ofParts_of_perm {upload : Upload} {inQuery inBody : List (String × String)}
    {query : Option Bytes}
    (written : query = some (Form.serialize inQuery) ∨ inQuery = [] ∧ query = none)
    (order : (inQuery ++ inBody).Perm upload.fields) :
    ofParts query (Form.serialize inBody) = upload := by
  unfold ofParts
  rw [Params.ofQuery_written written, Params.parse_serialize]
  exact Params.upload_of_perm order

/-! ## The two requests -/

namespace Request

variable {headers : List Header}

/-- A path of a route may be written. -/
lemma isPathByte_path (route : Route) :
    ∀ byte ∈ Utf8.encode route.path, Target.isPathByte byte = true := by
  rw [← List.all_eq_true]
  cases route <;> decide

/-- **The request that posts a form** can be built if its target is not too long. -/
lemma build_post {inQuery : List (String × String)} {target : Bytes}
    (written : target = Utf8.encode "/upload" ++ 0x3F :: Form.serialize inQuery ∨
      inQuery = [] ∧ target = Utf8.encode "/upload")
    (fits : target.length ≤ 65534) (sendable : ∃ names, headers.foldlM Header.check ∅ = .ok names)
    (body : Bytes) :
    ∃ query, (query = some (Form.serialize inQuery) ∨ inQuery = [] ∧ query = none) ∧
      build (Utf8.encode "POST") target headers body =
        .ok { method := .post, target := ⟨Utf8.encode "/upload", query⟩, headers, body } := by
  obtain ⟨query, query_eq, written_eq⟩ : ∃ query,
      (query = some (Form.serialize inQuery) ∨ inQuery = [] ∧ query = none) ∧
        target = (Target.mk (Utf8.encode "/upload") query).written := by
    rcases written with rfl | ⟨empty, rfl⟩
    · exact ⟨_, .inl rfl, rfl⟩
    · exact ⟨none, .inr ⟨empty, rfl⟩, (List.append_nil _).symm⟩
  have writable : (Target.mk (Utf8.encode "/upload") query).IsWritable := by
    refine ⟨isPathByte_path .upload, ?_⟩
    intro bytes asked byte among
    rcases query_eq with given | ⟨-, nothing⟩
    · cases asked.symm.trans given
      exact Form.isQueryByte_of_mem_serialize among
    · cases asked.symm.trans nothing
  subst written_eq
  exact ⟨query, query_eq, build_written rfl writable rfl fits sendable body⟩

/-- The target that asks for a source, as it is written. -/
lemma written_fetch (identifier : String) :
    (Target.mk (Utf8.encode "/listSource")
      (some (Form.serialize [("identifier", identifier)]))).written =
        Utf8.encode "/listSource?identifier=" ++ Form.encodeText identifier := by
  have name_eq : Utf8.encode "/listSource?identifier=" =
      Utf8.encode "/listSource" ++ 0x3F :: (Form.encodeText "identifier" ++ [0x3D]) := by
    decide
  unfold Target.written Form.serialize
  rw [name_eq, List.map_singleton, List.intercalate_singleton]
  simp [Form.encodePair]

/-- **The request that asks for a source** can be built if its target is not too long. -/
lemma build_fetch {identifier : String}
    (fits : (Utf8.encode "/listSource?identifier=" ++ Form.encodeText identifier).length ≤ 65534)
    (sendable : ∃ names, headers.foldlM Header.check ∅ = .ok names) :
    build (Utf8.encode "GET") (Utf8.encode "/listSource?identifier=" ++ Form.encodeText identifier)
        headers [] =
      .ok { method := .get, headers, body := [],
            target := ⟨Utf8.encode "/listSource",
              some (Form.serialize [("identifier", identifier)])⟩ } := by
  have writable : (Target.mk (Utf8.encode "/listSource")
      (some (Form.serialize [("identifier", identifier)]))).IsWritable := by
    refine ⟨isPathByte_path .source, ?_⟩
    rintro _ ⟨⟩ byte among
    exact Form.isQueryByte_of_mem_serialize among
  rw [← written_fetch] at fits ⊢
  exact build_written rfl writable rfl fits sendable []

end Request

/-- A request that only shows a route sends no upload. -/
lemma Request.upload?_of_get {request : Request} (isGet : request.method = .get) :
    request.upload? = none := by
  unfold upload?
  rw [isGet]
  exact if_neg (nofun ∘ And.left)

/-! ## Upload, then fetch -/

namespace Backend.Keeps

variable {σ : Type} {backend : Backend σ} {limit : Nat} {kept : σ → List Upload → Prop}
  {state : σ} {uploads : List Upload}

/-- A store that keeps a ledger lists it. -/
lemma listAll_eq (keeps : backend.Keeps limit kept) (tied : kept state uploads)
    (room : uploads.length ≤ limit) :
    (backend state .listAll).1 = .ok (uploads.map Upload.summary) := by
  have content_eq := keeps.content_eq tied .listAll room
  rcases answered : (backend state .listAll).1 with cause | summaries
  · rw [answered] at content_eq
    cases content_eq
  · rw [answered] at content_eq
    exact content_eq

/-- Over a store that keeps a ledger, the listing is that of the ledger, and nothing changes. -/
lemma listing (keeps : backend.Keeps limit kept) (tied : kept state uploads)
    (room : uploads.length ≤ limit) {request : Request}
    (at_listing : request.target.path = Utf8.encode "/apps") (isGet : request.method = .get) :
    ((Router.answer request).run backend state).1 =
        (Response.json (Json.array (uploads.map (·.summary.json))).render).sized ∧
      kept ((Router.answer request).run backend state).2 uploads := by
  have answer_eq := keeps.answer_eq tied request
  rw [Request.upload?_of_get isGet, Option.toList_none, List.append_nil,
    Router.listing_ledger at_listing isGet] at answer_eq
  exact answer_eq room

/-- Over a store that keeps a ledger, the source of the first upload under an identifier is found,
whatever was uploaded after it. -/
lemma source (keeps : backend.Keeps limit kept) {upload : Upload} {before after : List Upload}
    (tied : kept state (before ++ upload :: after))
    (room : (before ++ upload :: after).length ≤ limit)
    (isNew : ∀ other ∈ before, other.identifier ≠ upload.identifier)
    (named : upload.identifier ≠ "") {request : Request}
    (at_source : request.target.path = Utf8.encode "/listSource") (isGet : request.method = .get)
    (asked : (Params.ofQuery request.target.query).get? "identifier" = some upload.identifier) :
    ((Router.answer request).run backend state).1 = (Response.plain .ok upload.source).sized := by
  have notBefore : before.find? (·.identifier = upload.identifier) = none := by
    rw [List.find?_eq_none]
    intro other among
    simpa using isNew other among
  have found : (before ++ upload :: after).find? (·.identifier = upload.identifier) =
      some upload := by
    rw [List.find?_append, notBefore]
    simp
  have answer_eq := keeps.answer_eq tied request
  rw [Request.upload?_of_get isGet, Option.toList_none, List.append_nil,
    Router.named_source_ledger at_source isGet named asked, found] at answer_eq
  exact (answer_eq room).1

end Backend.Keeps

/-- Whether a response is the listing of those entries. -/
def Response.IsListing (response : Response) (entries : List Summary) : Prop :=
  response.status = .ok ∧
    response.body = Utf8.encode (Json.array (entries.map Summary.json)).render

/-- The listing of uploads is that of their entries. -/
lemma Response.isListing_of_eq {response : Response} {uploads : List Upload}
    (response_eq : response = (json (Json.array (uploads.map (·.summary.json))).render).sized) :
    response.IsListing (uploads.map Upload.summary) := by
  rw [response_eq]
  refine ⟨rfl, ?_⟩
  rw [List.map_map]
  rfl

namespace Catalog

/-- What has to follow in a state if a request posts an upload and another one asks for its
source. -/
structure FindsAgain (supply : Supply) (state : Catalog) (post fetch : Request) (upload : Upload)
    (later : List Submission) : Prop where
  /-- The upload is acknowledged. -/
  acknowledged : (state.answer supply post).1.status = .ok ∧
    (state.answer supply post).1.body = Utf8.encode "OK"
  /-- The listing has exactly one entry more, which is the last one. -/
  listed : ∃ entries, state.listAll.1 = .ok entries ∧
    ∀ list : Request, list.method = .get → list.target.path = Utf8.encode "/apps" →
      (state.answer supply list).1.IsListing entries ∧
        ((state.answer supply post).2.answer supply list).1.IsListing
          (entries ++ [⟨upload.identifier, upload.name, upload.description⟩])
  /-- The source is found byte for byte. -/
  fetched : ((state.answer supply post).2.answer supply fetch).1.status = .ok ∧
    ((state.answer supply post).2.answer supply fetch).1.body = Utf8.encode upload.source
  /-- Whatever is sent later, the source is found as before. -/
  unchanged :
    ((Plan.runAll (backend supply) (later.map Submission.plan)
        (state.answer supply post).2).2.answer supply fetch).1 =
      ((state.answer supply post).2.answer supply fetch).1

/-- **An upload that is new to a ledger is found again** over a store that keeps the ledger. -/
lemma findsAgain {supply : Supply} {limit : Nat} {kept : Catalog → List Upload → Prop}
    (keeps : (backend supply).Keeps limit kept) {state : Catalog} {uploads : List Upload}
    (tied : kept state uploads) {post fetch : Request} {upload : Upload}
    (taken : post.upload? = some upload) (named : upload.identifier ≠ "")
    (isNew : ∀ other ∈ uploads, other.identifier ≠ upload.identifier)
    (at_source : fetch.target.path = Utf8.encode "/listSource") (isGet : fetch.method = .get)
    (asked : (Params.ofQuery fetch.target.query).get? "identifier" = some upload.identifier)
    {later : List Submission}
    (room : uploads.length + (later.filterMap Submission.upload?).length + 1 ≤ limit) :
    FindsAgain supply state post fetch upload later := by
  have posted := keeps.answer_eq tied post
  rw [taken, Option.toList_some, Router.upload_ledger taken] at posted
  obtain ⟨reply_eq, tied_posted⟩ := posted (by simp; omega)
  obtain ⟨-, -, tied_later⟩ := keeps.submissions tied_posted later (by simp; omega)
  rw [List.append_assoc] at tied_later
  have source_eq : ((state.answer supply post).2.answer supply fetch).1 =
      (Response.plain .ok upload.source).sized :=
    keeps.source tied_posted (by simp; omega) isNew named at_source isGet asked
  constructor
  case acknowledged =>
    have reply : (state.answer supply post).1 = (Response.plain .ok "OK").sized := reply_eq
    rw [reply]
    exact ⟨rfl, rfl⟩
  case listed =>
    refine ⟨_, keeps.listAll_eq tied (by omega), fun list isGet at_listing => ⟨?_, ?_⟩⟩
    · exact Response.isListing_of_eq (keeps.listing tied (by omega) at_listing isGet).1
    · have listed := keeps.listing tied_posted (by simp; omega) at_listing isGet
      have appended := Response.isListing_of_eq listed.1
      rwa [List.map_append] at appended
  case fetched =>
    rw [source_eq]
    exact ⟨rfl, rfl⟩
  case unchanged =>
    rw [source_eq]
    exact keeps.source tied_later (by simp; omega) isNew named at_source isGet asked

/-- **What is uploaded is found again.** From every state that a service comes to, over a store in
memory or over a new database with room: an upload with a new identifier that is not empty, given
by a form in any order and split between the query and the body in any way, can be posted if it is
not too long. It is acknowledged and listed last, and its source can be fetched byte for byte;
that answer stays the same whatever is sent later. -/
theorem upload_then_fetch {supply : Supply} {start : Catalog} {sent later : List Submission}
    (room : start.HasRoom supply (((sent ++ later).filterMap Submission.upload?).length + 1))
    {upload : Upload} (named : upload.identifier ≠ "")
    (isNew : ∀ entries,
      (Plan.runAll (backend supply) (sent.map Submission.plan) start).2.listAll.1 = .ok entries →
        ∀ entry ∈ entries, entry.identifier ≠ upload.identifier)
    {inQuery inBody : List (String × String)} (order : (inQuery ++ inBody).Perm upload.fields)
    {target : Bytes}
    (written : target = Utf8.encode "/upload" ++ 0x3F :: Form.serialize inQuery ∨
      inQuery = [] ∧ target = Utf8.encode "/upload")
    {headers : List Header} (sendable : ∃ names, headers.foldlM Header.check ∅ = .ok names)
    (bodyFits : (Form.serialize inBody).length ≤ 2097152) (postFits : target.length ≤ 65534)
    (fetchFits : (Utf8.encode "/listSource?identifier=" ++
      Form.encodeText upload.identifier).length ≤ 65534) :
    ∃ post fetch : Request,
      Request.build (Utf8.encode "POST") target headers (Form.serialize inBody) = .ok post ∧
        Request.build (Utf8.encode "GET")
          (Utf8.encode "/listSource?identifier=" ++ Form.encodeText upload.identifier) headers [] =
            .ok fetch ∧
        FindsAgain supply (Plan.runAll (backend supply) (sent.map Submission.plan) start).2
          post fetch upload later := by
  obtain ⟨kept, keeps, tied⟩ := room.exists_keeps
  obtain ⟨query, query_eq, built⟩ :=
    Request.build_post written postFits sendable (Form.serialize inBody)
  refine ⟨_, _, built, Request.build_fetch fetchFits sendable, ?_⟩
  have count : ((sent ++ later).filterMap Submission.upload?).length =
      (sent.filterMap Submission.upload?).length + (later.filterMap Submission.upload?).length := by
    rw [List.filterMap_append, List.length_append]
  obtain ⟨-, -, tied⟩ := keeps.submissions tied sent (by rw [List.nil_append]; omega)
  rw [List.nil_append] at tied
  refine findsAgain keeps tied ?_ named ?_ rfl rfl ?_ (by omega)
  · unfold Request.upload?
    rw [if_pos ⟨rfl, rfl, bodyFits⟩, Upload.ofParts_of_perm query_eq order]
  · intro other among
    have entries_eq := keeps.listAll_eq tied (by omega)
    exact isNew _ entries_eq other.summary (List.mem_map.mpr ⟨other, among, rfl⟩)
  · show (Params.parse (Form.serialize _)).get? "identifier" = _
    rw [Params.parse_serialize]
    rfl

/-- An upload with characters that have a meaning in a form, sent after one that has the empty
identifier. -/
theorem upload_then_fetch_of_marks :
    let supply : Supply := fun n => ⟨toString n, n⟩
    let start : Catalog := { files := .fresh [], store := .memory [] }
    let earlier : Submission :=
      ⟨Utf8.encode "POST", Utf8.encode "/upload", [], Utf8.encode "identifier=&source=1"⟩
    let upload : Upload := ⟨"a b&c", "=\u0000", "", "100% + 1\r\n"⟩
    ∃ post fetch : Request,
      Request.build (Utf8.encode "POST")
          (Utf8.encode "/upload" ++ 0x3F :: Form.serialize [("source", "100% + 1\r\n")]) []
          (Form.serialize [("name", "=\u0000"), ("identifier", "a b&c"), ("description", "")]) =
        .ok post ∧
      Request.build (Utf8.encode "GET")
          (Utf8.encode "/listSource?identifier=" ++ Form.encodeText "a b&c") [] [] = .ok fetch ∧
      FindsAgain supply (Plan.runAll (backend supply) ([earlier].map Submission.plan) start).2
        post fetch upload [earlier] := by
  intro supply start earlier upload
  have listed : (Plan.runAll (backend supply) ([earlier].map Submission.plan) start).2.listAll.1 =
      .ok [⟨"", "", ""⟩] := rfl
  have isNew : ∀ entries,
      (Plan.runAll (backend supply) ([earlier].map Submission.plan) start).2.listAll.1 =
        .ok entries → ∀ entry ∈ entries, entry.identifier ≠ upload.identifier := by
    intro entries entries_eq
    rw [listed] at entries_eq
    cases entries_eq
    decide
  exact @upload_then_fetch supply start [earlier] [earlier] (.inl rfl) upload (by decide) isNew
    _ _ (by decide) _ (.inl rfl) [] ⟨∅, rfl⟩ (by decide) (by decide) (by decide)

end Catalog
end AppCatalog
