import AppCatalog.Proofs.Http.RoundTrip
import AppCatalog.Proofs.Text.Damage

/-!
# Texts that were sent

Where a value is found for a name, bytes were sent for either, and the two texts are what these
bytes are read as. Bytes that are no text are not absent: they are read as a text with replacement
characters, which nobody may have sent.

* **What is sent** (`Form.sent`) are the bytes of names and values. Parameters are these bytes, read
  leniently (`Params.pairs_ofParts`).
* **A lookup takes** (`Params.Takes`) the first of them whose name is read as the name that is
  looked up (`Params.get?_eq_some_iff_takes`).
* **Nothing is invented** (`Params.InventsNothing`) exactly if all that lookups take is text, or was
  sent as text besides (`Params.inventsNothing_iff`).
* **Searches and uploads** (`Router.searches_and_stores_what_is_sent`) are for texts that were sent,
  but for bytes that are no text (`Router.searches_for_text_never_sent`).
-/

namespace AppCatalog

/-! ## Names and values as they are sent -/

/-- Whether bytes are those of a text. -/
def Utf8.IsText (bytes : Bytes) : Prop := ∃ text, bytes = Utf8.encode text

namespace Form

/-- The bytes of the names and values in some parts, in their order. -/
def sent (parts : List Bytes) : List (Bytes × Bytes) :=
  (parts.flatMap pieces).map fun piece => (decodeBytes (nameOf piece), decodeBytes (valueOf piece))

/-- The parameter that a name and a value are read as. -/
def readPair (pair : Bytes × Bytes) : String × String :=
  (Utf8.decodeLossy pair.1, Utf8.decodeLossy pair.2)

/-- The bytes that are written for a parameter. -/
def writePair (pair : String × String) : Bytes × Bytes := (Utf8.encode pair.1, Utf8.encode pair.2)

/-- Whether a name and a value are both text. -/
def IsTextPair (pair : Bytes × Bytes) : Prop := Utf8.IsText pair.1 ∧ Utf8.IsText pair.2

/-- Bytes that are text are what is written for the text that they are read as. -/
lemma encode_decodeLossy {bytes : Bytes} (isText : Utf8.IsText bytes) :
    Utf8.encode (Utf8.decodeLossy bytes) = bytes := by
  obtain ⟨text, rfl⟩ := isText
  rw [Utf8.decodeLossy_encode]

/-- A name and a value that are text are what is written for the parameter they are read as. -/
lemma writePair_readPair {pair : Bytes × Bytes} (isText : IsTextPair pair) :
    writePair (readPair pair) = pair := by
  unfold writePair readPair
  rw [encode_decodeLossy isText.1, encode_decodeLossy isText.2]

/-- What is written for a parameter is text, and read as that parameter. -/
lemma readPair_writePair (pair : String × String) :
    IsTextPair (writePair pair) ∧ readPair (writePair pair) = pair := by
  refine ⟨⟨⟨_, rfl⟩, ⟨_, rfl⟩⟩, ?_⟩
  unfold writePair readPair
  rw [Utf8.decodeLossy_encode, Utf8.decodeLossy_encode]

end Form

namespace Params

open Form

variable {parts : List Bytes} {name value : String}

/-- The parameters of some parts, one after the other. -/
def ofParts (parts : List Bytes) : Params := (parts.map parse).foldl chain empty

/-- **Parameters** are the names and values that are sent, read leniently. -/
lemma pairs_ofParts (parts : List Bytes) : (ofParts parts).pairs = (sent parts).map readPair := by
  unfold ofParts
  induction parts with
  | nil => rfl
  | cons part parts ih =>
      rw [List.map_cons, List.foldl_cons, empty_chain, foldl_chain]
      show (parse part).pairs ++ ((parts.map parse).foldl chain empty).pairs = _
      unfold sent at ih ⊢
      rw [ih, List.flatMap_cons, List.map_append, List.map_append]
      refine congrArg (· ++ _) ?_
      unfold parse
      rw [List.map_map]
      rfl

/-- Whether looking up a name takes that name and value from what is sent. -/
def Takes (parts : List Bytes) (name : String) (taken : Bytes × Bytes) : Prop :=
  (sent parts).find? (fun pair => (readPair pair).1 = name) = some taken

/-- What is taken was sent, and its name is read as the one that is looked up. -/
lemma Takes.sent {taken : Bytes × Bytes} (takes : Takes parts name taken) :
    taken ∈ sent parts ∧ (readPair taken).1 = name :=
  ⟨List.mem_of_find?_eq_some takes, by simpa using List.find?_some takes⟩

/-- **A lookup** finds what the value that it takes is read as. -/
lemma get?_eq_some_iff_takes :
    (ofParts parts).get? name = some value ↔
      ∃ taken, Takes parts name taken ∧ readPair taken = (name, value) := by
  unfold Takes
  rw [get?_eq_find?, pairs_ofParts, List.find?_map, Option.map_map]
  change Option.map _ ((Form.sent parts).find? fun pair => (readPair pair).1 = name) = _ ↔ _
  rw [Option.map_eq_some_iff]
  refine exists_congr fun taken => and_congr_right fun takes => ?_
  have named : (readPair taken).1 = name := (Takes.sent takes).2
  rw [Prod.ext_iff]
  exact (and_iff_right named).symm

/-! ## What was sent as text -/

/-- Whether each value that is found for a name was sent, as bytes for bytes, with that name. -/
def InventsNothing (parts : List Bytes) : Prop :=
  ∀ name value, (ofParts parts).get? name = some value → writePair (name, value) ∈ sent parts

/-- **Nothing is invented** exactly if each name and value that a lookup takes is text, or what it
is read as was also sent as text. -/
lemma inventsNothing_iff :
    InventsNothing parts ↔ ∀ name taken, Takes parts name taken →
      ∃ other ∈ sent parts, IsTextPair other ∧ readPair other = readPair taken := by
  constructor
  · intro nothing name taken takes
    have named : (readPair taken).1 = name := takes.sent.2
    have read : readPair taken = (name, (readPair taken).2) := Prod.ext named rfl
    have found := get?_eq_some_iff_takes.2 ⟨taken, takes, read⟩
    obtain ⟨isText, read_eq⟩ := readPair_writePair (name, (readPair taken).2)
    exact ⟨_, nothing _ _ found, isText, read_eq.trans read.symm⟩
  · intro asText name value found
    obtain ⟨taken, takes, read⟩ := get?_eq_some_iff_takes.1 found
    obtain ⟨other, among, isText, read_eq⟩ := asText name taken takes
    rw [← read, ← read_eq, writePair_readPair isText]
    exact among

/-- Without replacement characters a name and a value were sent as text. -/
lemma eq_writePair_of_intact {taken : Bytes × Bytes} (read : readPair taken = (name, value))
    (intact : Utf8.replacement ∉ name.toList) (intact' : Utf8.replacement ∉ value.toList) :
    taken = writePair (name, value) := by
  obtain ⟨name_eq, value_eq⟩ := Prod.ext_iff.1 read
  exact Prod.ext (Utf8.eq_encode_of_decodeLossy name_eq intact)
    (Utf8.eq_encode_of_decodeLossy value_eq intact')

/-- The parameters of a query, as those of its one part. -/
lemma ofQuery_eq_ofParts (query : Option Bytes) : ofQuery query = ofParts query.toList := by
  cases query <;> rfl

/-- The parameters of a query and a body, as those of both parts. -/
lemma chain_eq_ofParts (query : Option Bytes) (body : Bytes) :
    (ofQuery query).chain (parse body) = ofParts (query.toList ++ [body]) := by
  cases query <;> rfl

end Params

/-! ## Searches and uploads -/

namespace Request

open Form Params

variable {request : Request}

/-- The parts of a request that hold parameters. -/
def parts (request : Request) : List Bytes := request.target.query.toList ++ [request.body]

/-- An app is looked up under the identifier that is found in the query. -/
lemma get?_of_find {identifier : String} (searches : request.call? = some (.find identifier)) :
    (ofParts request.target.query.toList).get? "identifier" = some identifier := by
  rw [← ofQuery_eq_ofParts]
  have wanted : ∀ {route : Route}, route.shownCall? request.target.query = some (.find identifier) →
      (ofQuery request.target.query).get? "identifier" = some identifier := by
    intro route shown
    cases route with
    | source =>
        unfold Route.shownCall? at shown
        obtain ⟨_, isWanted, ⟨⟩⟩ := Option.map_eq_some_iff.1 shown
        exact (Option.filter_eq_some_iff.1 isWanted).1
    | _ => cases shown
  unfold call? at searches
  split at searches
  · exact wanted searches
  · exact wanted searches
  · split at searches <;> cases searches
  · cases searches

/-- An upload that is stored is read off the query and the body. -/
lemma eq_upload_of_insert {upload : Upload} (stores : request.call? = some (.insert upload)) :
    upload = (ofParts request.parts).upload := by
  obtain ⟨-, -, -, rfl⟩ := of_upload? (upload?_of_call? stores)
  unfold Upload.ofParts parts
  rw [chain_eq_ofParts]

end Request

/-- A field of an upload is what is found for its name, or else empty. -/
lemma Params.get?_of_mem_fields {params : Params} {field : String × String}
    (among : field ∈ params.upload.fields) :
    field.2 = "" ∨ params.get? field.1 = some field.2 := by
  have here : ∀ name, params.getOrEmpty name = "" ∨
      params.get? name = some (params.getOrEmpty name) := by
    intro name
    unfold getOrEmpty
    rcases params.get? name with _ | value
    · exact .inl rfl
    · exact .inr rfl
  unfold Upload.fields upload at among
  simp only [List.mem_cons, List.not_mem_nil, or_false] at among
  rcases among with rfl | rfl | rfl | rfl <;> exact here _

namespace Router

open Form Params

/-- **Searches and uploads are for what is sent.** A lookup finds what the first name and value that
are read as its name are read as, and it invents nothing exactly if all that lookups take is text or
was sent as text besides. So two searches for the same identifier were sent the same bytes for it,
and a field of an upload that is not empty was sent as it is stored, if what was sent is text or what
it is read as has no replacement character. -/
theorem searches_and_stores_what_is_sent (parts : List Bytes) (request : Request) :
    (∀ name value, (ofParts parts).get? name = some value ↔
      ∃ taken, Takes parts name taken ∧ readPair taken = (name, value)) ∧
    (InventsNothing parts ↔ ∀ name taken, Takes parts name taken →
      ∃ other ∈ sent parts, IsTextPair other ∧ readPair other = readPair taken) ∧
    (∀ name value, Utf8.replacement ∉ name.toList → Utf8.replacement ∉ value.toList →
      (ofParts parts).get? name = some value → writePair (name, value) ∈ sent parts) ∧
    (∀ other : Request, ∀ identifier, request.call? = some (.find identifier) →
      other.call? = some (.find identifier) →
        ∃ taken taken', Takes request.target.query.toList "identifier" taken ∧
          Takes other.target.query.toList "identifier" taken' ∧
          taken.1 = Utf8.encode "identifier" ∧ taken'.1 = Utf8.encode "identifier" ∧
          (Utf8.IsText taken.2 ∧ Utf8.IsText taken'.2 ∨ Utf8.replacement ∉ identifier.toList →
            taken.2 = Utf8.encode identifier ∧ taken'.2 = Utf8.encode identifier)) ∧
    (∀ upload, request.call? = some (.insert upload) → ∀ field ∈ upload.fields,
      field.2 = "" ∨ ∃ taken, Takes request.parts field.1 taken ∧ readPair taken = field ∧
        taken.1 = Utf8.encode field.1 ∧
        (Utf8.IsText taken.2 ∨ Utf8.replacement ∉ field.2.toList →
          taken.2 = Utf8.encode field.2)) := by
  have as_sent : ∀ {bytes text}, Utf8.decodeLossy bytes = text →
      Utf8.IsText bytes ∨ Utf8.replacement ∉ text.toList → bytes = Utf8.encode text := by
    rintro bytes text read (isText | intact)
    · rw [← read, encode_decodeLossy isText]
    · exact Utf8.eq_encode_of_decodeLossy read intact
  refine ⟨fun name value => get?_eq_some_iff_takes, inventsNothing_iff, ?_, ?_, ?_⟩
  · intro name value intact intact' found
    obtain ⟨taken, takes, read⟩ := get?_eq_some_iff_takes.1 found
    rw [← eq_writePair_of_intact read intact intact']
    exact takes.sent.1
  · intro other identifier searches searches'
    obtain ⟨taken, takes, read⟩ := get?_eq_some_iff_takes.1 (Request.get?_of_find searches)
    obtain ⟨taken', takes', read'⟩ := get?_eq_some_iff_takes.1 (Request.get?_of_find searches')
    obtain ⟨name_eq, value_eq⟩ := Prod.ext_iff.1 read
    obtain ⟨name_eq', value_eq'⟩ := Prod.ext_iff.1 read'
    refine ⟨taken, taken', takes, takes', as_sent name_eq (.inr (by decide)),
      as_sent name_eq' (.inr (by decide)), fun intact => ?_⟩
    exact ⟨as_sent value_eq (intact.imp_left And.left),
      as_sent value_eq' (intact.imp_left And.right)⟩
  · intro upload stores field among
    rw [Request.eq_upload_of_insert stores] at among
    refine (get?_of_mem_fields among).imp_right fun found => ?_
    obtain ⟨taken, takes, read⟩ := get?_eq_some_iff_takes.1 found
    obtain ⟨name_eq, value_eq⟩ := Prod.ext_iff.1 read
    have plain : Utf8.replacement ∉ field.1.toList := by
      unfold Upload.fields at among
      simp only [List.mem_cons, List.not_mem_nil, or_false] at among
      rcases among with rfl | rfl | rfl | rfl <;> dsimp only <;> decide
    exact ⟨taken, takes, read, as_sent name_eq (.inr plain), as_sent value_eq⟩

/-- Two bytes that are no text, sent as identifiers: each is read as the replacement character, that
neither request has sent, and so they search for the same app. -/
theorem searches_for_text_never_sent :
    let query := Utf8.encode "identifier=%FF"
    let other := Utf8.encode "identifier=%FE"
    let search (query : Bytes) : Request := ⟨.get, ⟨Utf8.encode "/listSource", some query⟩, [], []⟩
    (ofParts [query]).get? "identifier" = some "\uFFFD" ∧
      writePair ("identifier", "\uFFFD") ∉ sent [query] ∧
      sent [query] ≠ sent [other] ∧
      (search query).call? = some (.find "\uFFFD") ∧
      (search other).call? = some (.find "\uFFFD") := by
  decide

end Router
end AppCatalog
