import Mathlib.Data.List.Forall2
import Mathlib.Tactic.Lemma
import AppCatalog.Proofs.Http.Interchange

/-!
# What responses disclose

Sources are told to nobody but those who ask for them by identifier, and ids and times are told to
nobody at all. Two services are sent requests that differ in the sources of uploads at most; what
they respond is compared.

* **Alike requests** (`Request.Alike`) are equal, or send uploads that show the same.
* **The open part** of a response (`Request.openPart`) leaves out the body, and its size, where a
  source is asked for. The rest of such a response does not depend on the store
  (`Router.outline_of_find`).
* **One request** (`Router.openPart_eq`): over ledgers whose uploads are listed the same, alike
  requests have the same open part, and the ledgers after them are listed the same.
* **Many requests** (`Catalog.discloses_no_source`): this holds over every store to begin with,
  whatever ids and times it gives out.
-/

namespace AppCatalog

variable {σ τ β : Type}

/-! ## Requests that are alike -/

/-- Whether two requests are equal, or both send an upload that is taken, of which the same is
shown. -/
def Request.Alike (shown : Upload → β) (request request' : Request) : Prop :=
  request = request' ∨
    ∃ upload upload', request.upload? = some upload ∧ request'.upload? = some upload' ∧
      shown upload = shown upload'

/-- What is left of a response without its body and its size. -/
def Response.outline (response : Response) : Response :=
  { response with headers := response.headers.filter (·.1 ≠ "content-length"), body := [] }

/-- The part of a response to a request that everybody may see: all of it, unless a source is asked
for. -/
def Request.openPart (request : Request) (response : Response) : Response :=
  if request.target.path = Utf8.encode "/listSource" then response.outline else response

/-- A request for an upload is answered openly. -/
lemma Request.openPart_of_upload? {request : Request} {upload : Upload}
    (taken : request.upload? = some upload) (response : Response) :
    request.openPart response = response := by
  obtain ⟨-, found, -, -⟩ := of_upload? taken
  refine if_neg ?_
  rw [Route.eq_path_of_at? found]
  decide

/-! ## One request over two ledgers -/

/-- A plan of one call comes to the same over two backends that answer that call the same. -/
lemma Plan.Asks.outcome_congr {failure : Response} {call? : Option Call} {plan : Plan Response}
    (asks : Asks failure call? plan) {backend : Backend σ} {backend' : Backend τ} {state : σ}
    {state' : τ}
    (same : ∀ call, call? = some call → (backend state call).1 = (backend' state' call).1) :
    (plan.run backend state).1 = (plan.run backend' state').1 := by
  cases asks with
  | nothing sound => rfl
  | once call respond sound failed => exact congrArg respond (same call rfl)

/-- An identifier is looked up only where a source is asked for. -/
lemma Request.path_of_find {request : Request} {identifier : String}
    (asked : request.call? = some (.find identifier)) :
    request.target.path = Utf8.encode "/listSource" ∧
      (request.method = .get ∨ request.method = .head) := by
  have at_source : ∀ (route : Route) (query : Option Bytes),
      route.shownCall? query = some (.find identifier) → route.path = "/listSource" := by
    intro route query shows
    cases route with
    | source => rfl
    | _ => cases shows
  unfold call? at asked
  split at asked
  · next route isGet found =>
      rw [Route.eq_path_of_at? found, at_source _ _ asked]
      exact ⟨rfl, .inl isGet⟩
  · next route isHead found =>
      rw [Route.eq_path_of_at? found, at_source _ _ asked]
      exact ⟨rfl, .inr isHead⟩
  · split at asked <;> cases asked
  · cases asked

namespace Router

/-- What is left of a text that is sent out does not depend on the text. -/
lemma outline_finish_plain (method : Method) (text text' : String) :
    (finish method (.plain .ok text)).outline = (finish method (.plain .ok text')).outline := by
  unfold finish
  split <;> rfl

/-- The answer to a request for a source is a text, whatever the ledger. -/
lemma exists_text_of_find {request : Request} {identifier : String}
    (asked : request.call? = some (.find identifier)) (uploads : List Upload) :
    ∃ text, ((answer request).run ledger uploads).1 = finish request.method (.plain .ok text) := by
  obtain ⟨at_source, shown⟩ := Request.path_of_find asked
  have asks : (respond request).Asks failed (some (.find identifier)) :=
    asked ▸ respond_asks request
  have respond_eq : respond request = source request.target.query := by
    unfold respond serve
    rw [Route.at?_of_eq_path .source at_source]
    rcases shown with isGet | isHead
    · rw [isGet]
      rfl
    · rw [isHead]
      rfl
  rw [respond_eq] at asks
  unfold answer
  rw [Plan.run_map, respond_eq]
  unfold source at asks ⊢
  rcases (Params.ofQuery request.target.query).get? "identifier" with _ | wanted
  · exact ⟨"", rfl⟩
  · unfold Service.getSource
    dsimp only
    split
    · exact ⟨"", rfl⟩
    · exact ⟨_, rfl⟩

/-- **A source that is asked for shows in the body and its size only.** -/
lemma outline_of_find {request : Request} {identifier : String}
    (asked : request.call? = some (.find identifier)) (uploads uploads' : List Upload) :
    request.openPart ((answer request).run ledger uploads).1 =
      request.openPart ((answer request).run ledger uploads').1 := by
  obtain ⟨text, response_eq⟩ := exists_text_of_find asked uploads
  obtain ⟨text', response_eq'⟩ := exists_text_of_find asked uploads'
  unfold Request.openPart
  rw [if_pos (Request.path_of_find asked).1, if_pos (Request.path_of_find asked).1, response_eq,
    response_eq', outline_finish_plain]

/-- **One request.** Over ledgers that are listed the same, alike requests have the same open
part. -/
lemma openPart_eq {request request' : Request} (alike : request.Alike Upload.summary request')
    {uploads uploads' : List Upload}
    (listed : uploads.map Upload.summary = uploads'.map Upload.summary) :
    request.openPart ((answer request).run ledger uploads).1 =
      request'.openPart ((answer request').run ledger uploads').1 := by
  rcases alike with rfl | ⟨upload, upload', taken, taken', -⟩
  · rcases asked : request.call? with _ | _ | identifier | upload
    case some.find => exact outline_of_find asked uploads uploads'
    all_goals
      refine congrArg request.openPart ((answer_asks request).outcome_congr fun call isCall => ?_)
      cases asked.symm.trans isCall
    · show Except.ok (uploads.map Upload.summary) = .ok (uploads'.map Upload.summary)
      rw [listed]
    · rfl
  · rw [Request.openPart_of_upload? taken, Request.openPart_of_upload? taken',
      upload_ledger taken, upload_ledger taken']

/-- The ledgers after alike requests show the same of their uploads. -/
lemma shown_after {shown : Upload → β} {request request' : Request}
    (alike : request.Alike shown request') {uploads uploads' : List Upload}
    (listed : uploads.map shown = uploads'.map shown) :
    ((answer request).run ledger uploads).2.map shown =
      ((answer request').run ledger uploads').2.map shown := by
  rw [state_ledger, state_ledger, List.map_append, List.map_append, listed]
  rcases alike with rfl | ⟨upload, upload', taken, taken', same⟩
  · rfl
  · rw [taken, taken', Option.toList_some, Option.toList_some, List.map_singleton,
      List.map_singleton, same]

/-! ## Many requests -/

/-- Over ledgers that are listed the same, the responses to alike requests have the same open
parts. -/
lemma openParts_runAll {requests requests' : List Request}
    (alike : List.Forall₂ (Request.Alike Upload.summary) requests requests')
    {uploads uploads' : List Upload}
    (listed : uploads.map Upload.summary = uploads'.map Upload.summary) :
    List.zipWith Request.openPart requests (Plan.runAll ledger (requests.map answer) uploads).1 =
      List.zipWith Request.openPart requests'
        (Plan.runAll ledger (requests'.map answer) uploads').1 := by
  induction alike generalizing uploads uploads' with
  | nil => rfl
  | cons alike _ ih =>
      simp only [List.map_cons, Plan.runAll, List.zipWith_cons_cons]
      rw [openPart_eq alike listed, ih (shown_after alike listed)]

/-- Over a ledger, requests that are alike in all that they upload have the same responses. -/
lemma runAll_eq_of_alike {requests requests' : List Request}
    (alike : List.Forall₂ (Request.Alike id) requests requests') (uploads : List Upload) :
    (Plan.runAll ledger (requests.map answer) uploads).1 =
      (Plan.runAll ledger (requests'.map answer) uploads).1 := by
  induction alike generalizing uploads with
  | nil => rfl
  | @cons request request' _ _ alike _ ih =>
      have response_eq : ((answer request).run ledger uploads).1 =
          ((answer request').run ledger uploads).1 := by
        rcases alike with rfl | ⟨upload, upload', taken, taken', -⟩
        · rfl
        · rw [upload_ledger taken, upload_ledger taken']
      have after_eq := shown_after alike (Eq.refl (uploads.map id))
      rw [List.map_id, List.map_id] at after_eq
      simp only [List.map_cons, Plan.runAll]
      rw [response_eq, after_eq, ih]

end Router

namespace Catalog

section Disclosure

variable {supply supply' : Supply} {catalog catalog' : Catalog} {requests requests' : List Request}

/-- Over an empty store with room, requests are answered as over an empty ledger. -/
lemma HasRoom.answers_eq
    (room : HasRoom supply catalog (requests.filterMap Request.upload?).length) :
    (Plan.runAll (backend supply) (requests.map Router.answer) catalog).1 =
      (Plan.runAll ledger (requests.map Router.answer) []).1 := by
  refine HasRoom.runAll_eq ?_ ?_
  · rw [Router.state_runAll_ledger]
    exact room
  · intro plan among
    obtain ⟨request, -, rfl⟩ := List.mem_map.mp among
    exact Router.answer_ignoresStamps request

/-- **What must not leave a service does not.** Two empty stores, each in memory or over a new
database with room, are sent requests that are equal but for the sources of the uploads that are
taken. There is a response to each request, and the two responses to it are the same but for the
body and its size where a source is asked for. If the sources are equal too, all responses are,
whatever ids and times the stores give out. -/
theorem discloses_no_source
    (room : HasRoom supply catalog (requests.filterMap Request.upload?).length)
    (room' : HasRoom supply' catalog' (requests'.filterMap Request.upload?).length)
    (alike : List.Forall₂ (Request.Alike Upload.summary) requests requests') :
    let responses := (Plan.runAll (backend supply) (requests.map Router.answer) catalog).1
    let responses' := (Plan.runAll (backend supply') (requests'.map Router.answer) catalog').1
    responses.length = requests.length ∧ responses'.length = requests'.length ∧
      List.zipWith Request.openPart requests responses =
        List.zipWith Request.openPart requests' responses' ∧
      (List.Forall₂ (Request.Alike id) requests requests' → responses = responses') := by
  intro responses responses'
  have responses_eq : responses = (Plan.runAll ledger (requests.map Router.answer) []).1 :=
    room.answers_eq
  have responses_eq' : responses' = (Plan.runAll ledger (requests'.map Router.answer) []).1 :=
    room'.answers_eq
  refine ⟨?_, ?_, ?_, ?_⟩
  · exact (Plan.length_runAll _ _ _).trans (List.length_map _)
  · exact (Plan.length_runAll _ _ _).trans (List.length_map _)
  · rw [responses_eq, responses_eq']
    exact Router.openParts_runAll alike rfl
  · intro alike
    rw [responses_eq, responses_eq']
    exact Router.runAll_eq_of_alike alike []

end Disclosure

/-- Two new databases that give out different ids and times are sent different sources, a request
for the listing and one for the source. -/
theorem discloses_no_source_of_uploads :
    let catalog := created (.fresh []) "apps.db" 0
    let post (source : String) : Request := ⟨.post, ⟨Utf8.encode "/upload", none⟩, [],
      Utf8.encode ("identifier=a&source=" ++ source)⟩
    let list : Request := ⟨.get, ⟨Utf8.encode "/apps", none⟩, [], []⟩
    let fetch : Request :=
      ⟨.get, ⟨Utf8.encode "/listSource", some (Utf8.encode "identifier=a")⟩, [], []⟩
    let requests := [post "1", list, fetch]
    let requests' := [post "22", list, fetch]
    List.zipWith Request.openPart requests (Plan.runAll (backend fun n => ⟨toString n, 0⟩)
        (requests.map Router.answer) catalog).1 =
      List.zipWith Request.openPart requests' (Plan.runAll (backend fun n => ⟨toString (n + 7), n⟩)
        (requests'.map Router.answer) catalog).1 := by
  intro catalog post list fetch requests requests'
  have unique : Function.Injective fun n => (Stamp.mk (toString n) 0).id :=
    fun _ _ same => Nat.repr_injective same
  have unique' : Function.Injective fun n : Nat => (Stamp.mk (toString (n + 7)) n).id := by
    intro n n' same
    have numbers_eq : n + 7 = n' + 7 := Nat.repr_injective same
    omega
  have alike : (post "1").Alike Upload.summary (post "22") :=
    .inr ⟨⟨"a", "", "", "1"⟩, ⟨"a", "", "", "22"⟩, by decide, by decide, rfl⟩
  exact (discloses_no_source (.inr ⟨created_isNew, unique, by decide⟩)
    (.inr ⟨created_isNew, unique', by decide⟩)
    (.cons alike (.cons (.inl rfl) (.cons (.inl rfl) .nil)))).2.2.1

end Catalog
end AppCatalog
