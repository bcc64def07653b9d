import AppCatalog.Proofs.Http.Acceptance
import AppCatalog.Proofs.Json.Reading
import AppCatalog.Proofs.Store.Views

/-!
# The listing is faithful

Whatever the texts of the apps are, whoever reads the listing as JSON finds these texts, and nothing
else.

* **A response lists entries** (`Response.Lists`) if its body spells an array of one object for each
  of them. Such a body tells which entries they are (`Response.Lists.eq_of_body_eq`).
* **The listing** (`Router.lists_of_listAll`) lists what the store answers, and a store answers with
  the apps that it has (`Catalog.Has`).
-/

namespace AppCatalog

/-! ## Entries -/

/-- The object that stands for an entry: three members, in this order. -/
def Summary.object (summary : Summary) : Json.Value :=
  .object [("identifier", .text summary.identifier), ("name", .text summary.name),
    ("description", .text summary.description)]

/-- An object stands for one entry. -/
lemma Summary.object_injective : Function.Injective Summary.object := by
  rintro ⟨identifier, name, description⟩ ⟨identifier', name', description'⟩ same
  unfold Summary.object at same
  cases same
  rfl

/-- What is written for an entry spells its object. -/
lemma Summary.value_json (summary : Summary) : summary.json.value = summary.object := rfl

/-- What is written for entries spells the array of their objects. -/
lemma Summary.value_array (entries : List Summary) :
    (Json.array (entries.map Summary.json)).value = .array (entries.map Summary.object) := by
  unfold Json.value
  rw [Json.itemValues_eq_map, List.map_map]
  rfl

/-! ## Responses -/

/-- Whether a response lists entries: its body is a text of JSON in UTF-8 that spells an array of
exactly one object for each of them, in their order, and nothing else. -/
structure Response.Lists (response : Response) (entries : List Summary) : Prop where
  status : response.status = .ok
  kind : ("content-type", "application/json") ∈ response.headers
  isText : ∃ text, response.body = Utf8.encode text ∧
    ∀ value, Json.IsText value text ↔ value = .array (entries.map Summary.object)
  decoded : Json.ofBytes? response.body = some (.array (entries.map Summary.object))

/-- A body lists one sequence of entries. -/
lemma Response.Lists.eq_of_body_eq {response response' : Response} {entries entries' : List Summary}
    (lists : response.Lists entries) (lists' : response'.Lists entries')
    (same : response.body = response'.body) : entries = entries' := by
  have decoded := lists.decoded
  rw [same, lists'.decoded] at decoded
  have objects_eq : entries'.map Summary.object = entries.map Summary.object :=
    Json.Value.array.inj (Option.some.inj decoded)
  exact (List.map_injective_iff.2 Summary.object_injective objects_eq).symm

/-! ## Stores -/

namespace Catalog

/-- Whether a catalog is open and has apps, in their order: in memory, or as the rows of the table
of its database. -/
inductive Has (apps : List App) (catalog : Catalog) : Prop
  | memory (store_eq : catalog.store = .memory apps)
  | table {place? : Option Place} {table : AppTable} (stands : Stands place? catalog table)
      (isOpen : catalog.store ≠ .closed) (apps_eq : table.apps = apps)

/-- A catalog lists the apps that it has. -/
lemma Has.listAll_eq {apps : List App} {catalog : Catalog} (has : Has apps catalog)
    (supply : Supply) : (backend supply catalog .listAll).1 = .ok (apps.map App.summary) := by
  cases has with
  | memory store_eq =>
      show catalog.listAll.1 = _
      unfold listAll
      rw [store_eq]
      rfl
  | table stands isOpen apps_eq =>
      rw [(stands.call isOpen supply .listAll).1, ← apps_eq]
      rfl

end Catalog

/-! ## The listing -/

/-- Whether a request asks for the listing. -/
structure Request.AsksForListing (request : Request) : Prop where
  method : request.method = .get
  path : request.target.path = Utf8.encode "/apps"

namespace Router

/-- **The listing** lists what the store answers. -/
lemma lists_of_listAll {σ : Type} {backend : Backend σ} {state : σ} {entries : List Summary}
    (answered : (backend state .listAll).1 = .ok entries) {request : Request}
    (asks : request.AsksForListing) : ((answer request).run backend state).1.Lists entries := by
  have isText := Json.isText_render (.array (entries.map Summary.json))
  rw [Summary.value_array] at isText
  have answer_eq : ((answer request).run backend state).1 =
      (Response.json (Json.array (entries.map Summary.json)).render).sized := by
    rw [answer_of_get (Route.at?_of_eq_path .listing asks.path) asks.method]
    show (answerOf _ (backend state .listAll).1).sized = _
    rw [answered]
    rfl
  rw [answer_eq]
  exact
    { status := rfl
      kind := List.mem_cons_of_mem _ List.mem_cons_self
      isText := ⟨_, rfl, fun value => ⟨fun other => other.unique isText, fun same => same ▸ isText⟩⟩
      decoded := Json.ofBytes?_encode isText }

/-- **The listing is faithful.** Whatever texts a store answers with, the body is a text of JSON
that spells an array of one object for each entry, in their order, with exactly the three texts of
the entry as its members, and that spells nothing else. So what a store with apps lists are these
apps, in memory or in a database, and two stores that answer the same body have the same entries. -/
theorem listing_is_faithful :
    (∀ {σ : Type} (backend : Backend σ) (state : σ) (entries : List Summary),
      (backend state .listAll).1 = .ok entries → ∀ request : Request, request.AsksForListing →
        ((answer request).run backend state).1.Lists entries) ∧
    (∀ (apps : List App) (catalog : Catalog) (supply : Supply), catalog.Has apps →
      ∀ request : Request, request.AsksForListing →
        ((answer request).run (Catalog.backend supply) catalog).1.Lists (apps.map App.summary)) ∧
    (∀ {σ τ : Type} (backend : Backend σ) (backend' : Backend τ) (state : σ) (state' : τ)
      (entries entries' : List Summary), (backend state .listAll).1 = .ok entries →
        (backend' state' .listAll).1 = .ok entries' →
          ∀ request request' : Request, request.AsksForListing → request'.AsksForListing →
            ((answer request).run backend state).1.body =
                ((answer request').run backend' state').1.body →
              entries = entries') := by
  refine ⟨fun backend state entries answered request => lists_of_listAll answered,
    fun apps catalog supply has request => lists_of_listAll (has.listAll_eq supply), ?_⟩
  intro σ τ backend backend' state state' entries entries' answered answered' request request'
    asks asks' same
  exact (lists_of_listAll answered asks).eq_of_body_eq (lists_of_listAll answered' asks') same

/-- An app whose texts try to end its entry and to forge another one: the listing is not that of two
apps. -/
theorem listing_is_faithful_of_forger :
    let forger : App :=
      ⟨"0", "a\",\"name\":\"\",\"description\":\"\"\x7d,\x7b\"identifier\":\"b", "\\\x00\x7f",
        "\u2028😀]", "s", 0⟩
    let apps : List App :=
      [⟨"0", "a", "", "", "s", 0⟩, ⟨"1", "b", "\\\x00\x7f", "\u2028😀]", "s", 0⟩]
    let shown (apps : List App) : Response :=
      ((answer ⟨.get, ⟨Utf8.encode "/apps", none⟩, [], []⟩).run
        (Catalog.backend fun _ => .blank) { files := .fresh [], store := .memory apps }).1
    (shown [forger]).Lists [forger.summary] ∧ (shown apps).body ≠ (shown [forger]).body := by
  intro forger apps shown
  obtain ⟨-, ofStore, different⟩ := listing_is_faithful
  refine ⟨ofStore [forger] _ _ (.memory rfl) _ ⟨rfl, rfl⟩, fun same => ?_⟩
  have entries_eq := different _ _ _ _ (apps.map App.summary) [forger.summary] rfl rfl _ _
    ⟨rfl, rfl⟩ ⟨rfl, rfl⟩ same
  exact absurd (congrArg List.length entries_eq) (by decide)

end Router
end AppCatalog
