import Mathlib.Tactic.Lemma
import AppCatalog.Proofs.Http.Acceptance
import AppCatalog.Server

/-!
# The history of a service

What a service answers is told by the uploads that it acknowledged. Everything that was sent
counts: requests that are not found, refused or too long, and what is no request at all.

* **What is sent** (`Submission`) is a request or cannot be built; its upload, if one is
  acknowledged, is read off what was sent and what was answered (`Submission.acknowledged?`).
* **Over a store that keeps a ledger** the ledger grows by what is acknowledged
  (`Backend.Keeps.submissions`).
* **In memory** the apps are the uploads that were acknowledged, in their order, and every answer
  shows them (`Catalog.Shows`).
-/

namespace AppCatalog

variable {σ : Type}

/-! ## What is sent -/

/-- What is sent, in the hope that it is a request. -/
structure Submission where
  method : Bytes
  target : Bytes
  headers : List Header
  body : Bytes
  deriving Repr, DecidableEq

namespace Submission

/-- The request that is built, if it can be. -/
def build (submission : Submission) : Except RequestError Request :=
  Request.build submission.method submission.target submission.headers submission.body

/-- What is done for a submission: nothing if it is no request. -/
def plan (submission : Submission) : Plan (Except RequestError Response) :=
  match submission.build with
  | .error cause => .done (.error cause)
  | .ok request => (Router.answer request).map .ok

/-- The upload that a submission sends, if it is one that is taken. -/
def upload? (submission : Submission) : Option Upload :=
  match submission.build with
  | .error _ => none
  | .ok request => request.upload?

/-- The upload that is read from a submission, if it was posted to the route for uploads and was
answered that all is well. -/
def acknowledged? (submission : Submission) (answer : Except RequestError Response) :
    Option Upload :=
  match submission.build, answer with
  | .ok request, .ok response =>
    if request.method = .post ∧ request.target.path = Utf8.encode "/upload" ∧
        response.status = .ok then
      some (.ofParts request.target.query request.body)
    else none
  | _, _ => none

/-- The uploads of submissions that were answered that all is well. -/
def acknowledged (submissions : List Submission)
    (answers : List (Except RequestError Response)) : List Upload :=
  (submissions.zip answers).filterMap fun sent => sent.1.acknowledged? sent.2

/-! ## Submissions over a ledger -/

/-- No answer to a submission depends on a stamp. -/
lemma plan_ignoresStamps (submission : Submission) : submission.plan.IgnoresStamps := by
  unfold plan
  split
  · exact .done _
  · exact (Router.answer_ignoresStamps _).map _

/-- The ledger after a submission has the upload that was taken behind the others. -/
lemma state_ledger (submission : Submission) (uploads : List Upload) :
    (submission.plan.run ledger uploads).2 = uploads ++ submission.upload?.toList := by
  unfold plan upload?
  rcases submission.build with cause | request
  · exact (List.append_nil _).symm
  · dsimp only
    rw [Plan.run_map]
    exact Router.state_ledger request uploads

/-- Over the ledger an upload is acknowledged exactly if it is taken. -/
lemma acknowledged?_ledger (submission : Submission) (uploads : List Upload) :
    submission.acknowledged? (submission.plan.run ledger uploads).1 = submission.upload? := by
  unfold acknowledged? plan upload?
  rcases submission.build with cause | request
  · rfl
  · dsimp only
    rw [Plan.run_map]
    dsimp only
    rcases taken : request.upload? with _ | upload
    · refine if_neg ?_
      rintro ⟨isPost, at_upload, well⟩
      by_cases tooLong : maxUploadBytes < request.body.length
      · obtain ⟨response, status_eq, answer_eq⟩ := Router.answer_of_tooLong
          (Route.at?_of_eq_path .upload at_upload) isPost tooLong
        rw [answer_eq] at well
        exact absurd (status_eq.symm.trans well) nofun
      · unfold Request.upload? at taken
        rw [if_pos ⟨isPost, at_upload, Nat.not_lt.mp tooLong⟩] at taken
        cases taken
    · obtain ⟨isPost, found, -, rfl⟩ := Request.of_upload? taken
      rw [Router.upload_ledger taken]
      exact if_pos ⟨isPost, Route.eq_path_of_at? found, rfl⟩

/-- Over the ledger the uploads that are acknowledged are those that are taken. -/
lemma acknowledged_ledger (submissions : List Submission) (uploads : List Upload) :
    acknowledged submissions (Plan.runAll ledger (submissions.map plan) uploads).1 =
      submissions.filterMap upload? := by
  induction submissions generalizing uploads with
  | nil => rfl
  | cons submission submissions ih =>
      have rest := ih (submission.plan.run ledger uploads).2
      unfold acknowledged at rest ⊢
      show List.filterMap _ ((submission, (submission.plan.run ledger uploads).1) ::
        submissions.zip (Plan.runAll ledger (submissions.map plan) _).1) = _
      rw [List.filterMap_cons, List.filterMap_cons, acknowledged?_ledger, rest]

end Submission

/-! ## Submissions over a store that keeps a ledger -/

namespace Backend.Keeps

variable {backend : Backend σ} {limit : Nat} {kept : σ → List Upload → Prop}
  {state : σ} {uploads : List Upload}

/-- **The ledger grows by what is acknowledged**, and the answers are those of the ledger. -/
lemma submissions (keeps : backend.Keeps limit kept) (tied : kept state uploads)
    (submissions : List Submission)
    (room : (uploads ++ submissions.filterMap Submission.upload?).length ≤ limit) :
    (Plan.runAll backend (submissions.map Submission.plan) state).1 =
        (Plan.runAll ledger (submissions.map Submission.plan) uploads).1 ∧
      Submission.acknowledged submissions
          (Plan.runAll backend (submissions.map Submission.plan) state).1 =
        submissions.filterMap Submission.upload? ∧
      kept (Plan.runAll backend (submissions.map Submission.plan) state).2
        (uploads ++ submissions.filterMap Submission.upload?) := by
  have grown := Plan.state_runAll_ledger Submission.state_ledger submissions uploads
  have ignore : ∀ plan ∈ submissions.map Submission.plan, plan.IgnoresStamps := by
    intro plan among
    obtain ⟨submission, -, rfl⟩ := List.mem_map.mp among
    exact submission.plan_ignoresStamps
  rw [← grown] at room
  obtain ⟨answers_eq, tied⟩ := keeps.runAll_eq ignore tied room
  rw [grown] at tied
  refine ⟨answers_eq, ?_, tied⟩
  rw [answers_eq, Submission.acknowledged_ledger]

/-- A request is answered as over the ledger. -/
lemma answer_eq (keeps : backend.Keeps limit kept) (tied : kept state uploads) (request : Request)
    (room : (uploads ++ request.upload?.toList).length ≤ limit) :
    ((Router.answer request).run backend state).1 = ((Router.answer request).run ledger uploads).1 ∧
      kept ((Router.answer request).run backend state).2 (uploads ++ request.upload?.toList) := by
  rw [← Router.state_ledger] at room ⊢
  exact keeps.run_eq (Router.answer_ignoresStamps request) tied room

end Backend.Keeps

/-! ## A service in memory -/

namespace Catalog

/-- What a catalog has to answer if the uploads that it acknowledged were those. -/
structure Shows (supply : Supply) (catalog : Catalog) (uploads : List Upload) : Prop where
  /-- The apps in memory are the uploads, one for each and in their order. -/
  stored : ∃ apps, catalog.store = .memory apps ∧ apps.map App.upload = uploads
  /-- The listing has an entry for each of them, in their order. -/
  listing : ∀ request : Request, request.method = .get →
    request.target.path = Utf8.encode "/apps" →
      (catalog.answer supply request).1.status = .ok ∧
        (catalog.answer supply request).1.body =
          Utf8.encode (Json.array (uploads.map (·.summary.json))).render
  /-- Under an identifier the source of the earliest upload is found, or else nothing. -/
  source : ∀ request : Request, request.method = .get →
    request.target.path = Utf8.encode "/listSource" →
      ∀ identifier ≠ "",
        (Params.ofQuery request.target.query).get? "identifier" = some identifier →
          (catalog.answer supply request).1.status = .ok ∧
            (catalog.answer supply request).1.body = Utf8.encode
              (((uploads.find? (·.identifier = identifier)).map Upload.source).getD "")
  /-- Under no identifier, and under an empty one, nothing is found. -/
  no_source : ∀ request : Request, request.method = .get →
    request.target.path = Utf8.encode "/listSource" →
      (Params.ofQuery request.target.query).getOrEmpty "identifier" = "" →
        (catalog.answer supply request).1.status = .ok ∧
          (catalog.answer supply request).1.body = []

/-- A catalog in memory shows the uploads whose apps it holds. -/
lemma InMemory.shows {catalog : Catalog} {uploads : List Upload} (kept : catalog.InMemory uploads)
    (supply : Supply) : Shows supply catalog uploads := by
  have answer_eq : ∀ request : Request, (catalog.answer supply request).1 =
      ((Router.answer request).run ledger uploads).1 := fun request =>
    ((inMemory_keeps supply _).answer_eq kept request Nat.le.refl).1
  constructor
  case stored => exact kept
  case listing =>
    intro request isGet at_listing
    rw [answer_eq, Router.listing_ledger at_listing isGet]
    exact ⟨rfl, rfl⟩
  case source =>
    intro request isGet at_source identifier named asked
    rw [answer_eq, Router.named_source_ledger at_source isGet named asked]
    exact ⟨rfl, rfl⟩
  case no_source =>
    intro request isGet at_source unnamed
    rw [answer_eq, Router.unnamed_source_ledger at_source isGet unnamed]
    exact ⟨rfl, rfl⟩

/-- **The history of a service in memory.** After whatever was sent to it, it shows the uploads that
it acknowledged. What is sent to it without being acknowledged as an upload changes no later
answer. -/
theorem history_in_memory (supply : Supply) (files : Files) (issued : Nat)
    (sent : List Submission) :
    let run := Plan.runAll (backend supply) (sent.map Submission.plan)
      { files, store := .memory [], issued }
    Shows supply run.2 (Submission.acknowledged sent run.1) ∧
      ∀ other : Submission,
        other.acknowledged? (other.plan.run (backend supply) run.2).1 = none →
          ∀ later : List Submission,
            (Plan.runAll (backend supply) (later.map Submission.plan)
                (other.plan.run (backend supply) run.2).2).1 =
              (Plan.runAll (backend supply) (later.map Submission.plan) run.2).1 := by
  intro run
  have empty : InMemory { files, store := .memory [], issued } [] := ⟨[], rfl, rfl⟩
  obtain ⟨-, acknowledged_eq, kept⟩ :=
    (inMemory_keeps supply _).submissions empty sent Nat.le.refl
  rw [List.nil_append] at kept
  refine ⟨?_, ?_⟩
  · show Shows supply _ (Submission.acknowledged sent _)
    rw [acknowledged_eq]
    exact kept.shows supply
  · intro other unacknowledged later
    obtain ⟨outcome_eq, kept'⟩ :=
      (inMemory_keeps supply _).run_eq other.plan_ignoresStamps kept Nat.le.refl
    rw [outcome_eq, Submission.acknowledged?_ledger] at unacknowledged
    -- both states are tied to the same ledger, so that they cannot be told apart
    rw [Submission.state_ledger, unacknowledged, Option.toList_none, List.append_nil] at kept'
    rw [((inMemory_keeps supply _).submissions kept' later Nat.le.refl).1,
      ((inMemory_keeps supply _).submissions kept later Nat.le.refl).1]

end Catalog
end AppCatalog
