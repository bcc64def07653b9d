import Mathlib.Tactic.Lemma
import AppCatalog.Http.Router

/-!
# Plans that ignore stamps

A store gives every app an id and a time, and two stores seldom give the same ones. What a plan
makes of an answer may still be the same: it is if the plan looks only at what is left of the
answer without ids and times.

* **What is left** of an answer is its content (`Call.content`): the listing, the upload that was
  found, the upload that was stored.
* **A plan ignores stamps** (`Plan.IgnoresStamps`) if answers of equal content send it the same
  way, at every call and down to its outcome.
* **One call** (`Plan.ignoresStamps_of_content`): it is enough that the outcome is read off the
  content of the answer.
* **Two backends** whose answers have the same content send such a plan the same way
  (`Plan.IgnoresStamps.run_eq`).
* **Every request does** (`Router.answer_ignoresStamps`), whatever it asks of the service.

A plan that ignores stamps can be run over a store that has none; that is how stores are compared
in the modules that follow.
-/

namespace AppCatalog

variable {α β σ τ : Type}

/-! ## The content of an answer -/

/-- What the answers to a call are without ids and times. -/
def Call.Content : Call → Type
  | listAll => List Summary
  | find _ => Option Upload
  | insert _ => Upload

/-- An answer without ids and times. -/
def Call.content : (call : Call) → call.Answer → call.Content
  | listAll => fun summaries : List Summary => summaries
  | find _ => fun found : Option App => found.map App.upload
  | insert _ => fun app : App => app.upload

/-- The listing entry of an upload. -/
def Upload.summary (upload : Upload) : Summary where
  identifier := upload.identifier
  name := upload.name
  description := upload.description

/-- A stamp changes nothing that was uploaded. -/
@[simp] lemma Upload.upload_stamped (upload : Upload) (stamp : Stamp) :
    (upload.stamped stamp).upload = upload := rfl

/-! ## Ignoring stamps -/

namespace Plan

/-- Whether answers of equal content send a plan the same way, all the way to its outcome. -/
inductive IgnoresStamps {α : Type} : Plan α → Prop where
  | done (outcome : α) : IgnoresStamps (.done outcome)
  | ask {call : Call} {next : Except StoreError call.Answer → Plan α}
      (same : ∀ first second : Except StoreError call.Answer,
        first.map call.content = second.map call.content → next first = next second)
      (rest : ∀ answer, IgnoresStamps (next answer)) : IgnoresStamps (.ask call next)

/-- A plan that ignores stamps still does with another outcome. -/
lemma IgnoresStamps.map {plan : Plan α} (ignores : plan.IgnoresStamps) (f : α → β) :
    (plan.map f).IgnoresStamps := by
  induction ignores with
  | done outcome => exact .done (f outcome)
  | ask same _ ih =>
      refine .ask (fun first second alike => ?_) ih
      rw [same first second alike]

/-- **A plan of one call** ignores stamps if its outcome can be read off the content of the
answer. -/
lemma ignoresStamps_of_content {call : Call} {respond : Except StoreError call.Answer → α}
    (read : Except StoreError call.Content → α)
    (respond_eq : ∀ answer, respond answer = read (answer.map call.content)) :
    (Plan.ask call fun answer => .done (respond answer)).IgnoresStamps := by
  refine .ask (fun first second alike => ?_) fun answer => .done _
  rw [respond_eq, respond_eq, alike]

/-- **Two backends** whose answers have the same content send a plan that ignores stamps the same
way, from states that a relation ties together. -/
lemma IgnoresStamps.run_eq {backend : Backend σ} {backend' : Backend τ} (tied : σ → τ → Prop)
    (calls : ∀ {state state'}, tied state state' → ∀ call,
      (backend state call).1.map call.content = (backend' state' call).1.map call.content ∧
        tied (backend state call).2 (backend' state' call).2)
    {plan : Plan α} (ignores : plan.IgnoresStamps) {state : σ} {state' : τ}
    (start : tied state state') :
    (plan.run backend state).1 = (plan.run backend' state').1 ∧
      tied (plan.run backend state).2 (plan.run backend' state').2 := by
  induction ignores generalizing state state' with
  | done outcome => exact ⟨rfl, start⟩
  | @ask call next same rest ih =>
      obtain ⟨content_eq, after⟩ := calls start call
      simp only [run]
      rw [same _ _ content_eq]
      exact ih _ after

end Plan

/-! ## The service -/

namespace Service

/-- The listing is its own content. -/
lemma listApps_ignoresStamps : listApps.IgnoresStamps := by
  refine Plan.ignoresStamps_of_content (fun content : Except StoreError (List Summary) => content)
    fun answer => ?_
  cases answer <;> rfl

/-- The source of an app is one of the texts that were uploaded. -/
lemma getSource_ignoresStamps (identifier : String) : (getSource identifier).IgnoresStamps := by
  unfold getSource
  split
  · exact .done _
  · refine Plan.ignoresStamps_of_content (fun content : Except StoreError (Option Upload) =>
      content.map (Option.map Upload.source)) fun answer => ?_
    rcases answer with cause | _ | app <;> rfl

end Service

/-! ## Requests -/

namespace Router

open Service

/-- Taking an upload does not depend on the stamp that it gets. -/
lemma upload_ignoresStamps (query : Option Bytes) (body : Bytes) :
    (upload query body).IgnoresStamps := by
  unfold upload
  split
  · exact .done _
  · refine Plan.ignoresStamps_of_content (fun content : Except StoreError Upload =>
      answerOf (fun _ => .plain .ok uploadAck) content) fun answer => ?_
    cases answer <;> rfl

/-- No route looks at a stamp. -/
lemma view_ignoresStamps (route : Route) (query : Option Bytes) :
    (view route query).IgnoresStamps := by
  cases route with
  | greeting => exact .done _
  | listing => exact listApps_ignoresStamps.map _
  | source =>
      show (source query).IgnoresStamps
      unfold source
      split
      · exact .done _
      · exact (getSource_ignoresStamps _).map _
  | upload => exact .done _

/-- **No answer depends on a stamp**, whatever the request. -/
lemma answer_ignoresStamps (request : Request) : (answer request).IgnoresStamps := by
  refine Plan.IgnoresStamps.map ?_ _
  unfold respond
  split
  · exact .done _
  · unfold serve
    split
    · exact view_ignoresStamps _ _
    · exact view_ignoresStamps _ _
    · exact upload_ignoresStamps _ _
    · exact .done _

end Router
end AppCatalog
