import Mathlib
import AppCatalog.Proofs.Settings.Fitting

/-!
# Settings by position

A part of the settings may be an array, whose items are taken by position. This file says that an
array does the same as a table that names them.

* **The table of an array** (`Part.tableOf`) gives the items of the array, in their order, to the
  settings of the part in the order in which they are declared. What is left over of either is left
  out.
* **A part is decoded from an array as from its table** (`server_ofItems`, `database_ofItems`), with
  the same settings or the same mismatch.
* **A document may name the items** (`Names`) of any of its arrays, or leave out one that is empty.
  It is decoded as before (`ofEntries_of_names`).
* **Positions and names agree** (`positions_agree_with_names`) whatever else a document states.
-/

namespace AppCatalog.Settings

open Toml

/-! ## The table of an array -/

/-- The settings of a part, in the order in which they are declared. -/
def Part.declared : Part → List Key
  | server => [.bindAddress, .port]
  | database => [.backend, .path, .maxConnections, .enableWal]

/-- The entries that give items to the settings of a part by position. -/
def Part.entriesOf (part : Part) (items : List Toml.Value) : Entries :=
  (part.declared.map Key.name).zip items

/-- The table that gives items to the settings of a part by position. -/
def Part.tableOf (part : Part) (items : List Toml.Value) : Toml.Value :=
  .table (part.entriesOf items)

section Position

variable {σ α : Type} (put : σ → String → Toml.Value → Except Mismatch σ) (name : String)
  (decode : Toml.Value → Except Mismatch α) (get : σ → α) (set : σ → α → σ)

/-- The first of some names is given the item at its position, or keeps what it has. -/
lemma foldlM_position
    (put_eq : ∀ settings value, put settings name value = (decode value).map (set settings))
    (set_get : ∀ settings, set settings (get settings) = settings)
    (names : List String) (items : List Toml.Value) (position : Nat) (settings : σ) :
    ((name :: names).zip (items.drop position)).foldlM
        (fun settings entry => put settings entry.1 entry.2) settings =
      (itemOr items position decode (get settings)).bind fun content =>
        (names.zip (items.drop (position + 1))).foldlM
          (fun settings entry => put settings entry.1 entry.2) (set settings content) := by
  by_cases inside : position < items.length
  · rw [List.drop_eq_getElem_cons inside, List.zip_cons_cons, List.foldlM_cons]
    unfold itemOr
    rw [List.getElem?_eq_getElem inside]
    dsimp only
    rw [put_eq]
    cases decode items[position] <;> rfl
  · have beyond : items.length ≤ position := Nat.le_of_not_lt inside
    rw [List.drop_eq_nil_of_le beyond, List.drop_eq_nil_of_le (Nat.le_succ_of_le beyond)]
    unfold itemOr
    rw [List.getElem?_eq_none beyond, List.zip_nil_right, List.zip_nil_right]
    show Except.ok settings = Except.ok (set settings (get settings))
    rw [set_get]

end Position

/-- **The server's settings are decoded from items as from their table.** -/
lemma server_ofItems (items : List Toml.Value) :
    ServerSettings.ofItems items = ServerSettings.ofEntries (Part.server.entriesOf items) := by
  have bindAddress := foldlM_position ServerSettings.put "bind_address" (·.asText .text)
    ServerSettings.bindAddress (fun settings bindAddress => { settings with bindAddress })
    (fun settings value => by
      cases decoded : value.asText .text <;> simp [ServerSettings.put, decoded, Except.map])
    (fun _ => rfl)
  have port := foldlM_position ServerSettings.put "port" (·.asPort)
    ServerSettings.port (fun settings port => { settings with port })
    (fun settings value => by
      cases decoded : value.asPort <;> simp [ServerSettings.put, decoded, Except.map])
    (fun _ => rfl)
  refine Eq.trans ?_ (bindAddress ["port"] items 0 {}).symm
  refine congrArg (Except.bind _) (funext fun text => ?_)
  refine Eq.trans ?_ (port [] items 1 _).symm
  rfl

/-- **The database's settings are decoded from items as from their table.** -/
lemma database_ofItems (items : List Toml.Value) :
    DatabaseSettings.ofItems items =
      DatabaseSettings.ofEntries (Part.database.entriesOf items) := by
  have backend := foldlM_position DatabaseSettings.put "backend" (·.asText .text)
    DatabaseSettings.backend (fun settings backend => { settings with backend })
    (fun settings value => by
      cases decoded : value.asText .text <;> simp [DatabaseSettings.put, decoded, Except.map])
    (fun _ => rfl)
  have path := foldlM_position DatabaseSettings.put "path" (·.asText .path)
    DatabaseSettings.path (fun settings path => { settings with path })
    (fun settings value => by
      cases decoded : value.asText .path <;> simp [DatabaseSettings.put, decoded, Except.map])
    (fun _ => rfl)
  have maxConnections := foldlM_position DatabaseSettings.put "max_connections" (·.asCount)
    DatabaseSettings.maxConnections (fun settings maxConnections => { settings with maxConnections })
    (fun settings value => by
      cases decoded : value.asCount <;> simp [DatabaseSettings.put, decoded, Except.map])
    (fun _ => rfl)
  have enableWal := foldlM_position DatabaseSettings.put "enable_wal" (·.asTruth)
    DatabaseSettings.enableWal (fun settings enableWal => { settings with enableWal })
    (fun settings value => by
      cases decoded : value.asTruth <;> simp [DatabaseSettings.put, decoded, Except.map])
    (fun _ => rfl)
  refine Eq.trans ?_ (backend ["path", "max_connections", "enable_wal"] items 0 {}).symm
  refine congrArg (Except.bind _) (funext fun _ => ?_)
  refine Eq.trans ?_ (path ["max_connections", "enable_wal"] items 1 _).symm
  refine congrArg (Except.bind _) (funext fun _ => ?_)
  refine Eq.trans ?_ (maxConnections ["enable_wal"] items 2 _).symm
  refine congrArg (Except.bind _) (funext fun _ => ?_)
  refine Eq.trans ?_ (enableWal [] items 3 _).symm
  rfl

/-- **An array of a part is taken as its table.** -/
lemma put_array (settings : Settings) (part : Part) (items : List Toml.Value) :
    settings.put part.name (.array items) = settings.put part.name (part.tableOf items) := by
  cases part with
  | server =>
      show settings.put "server" _ = settings.put "server" _
      rw [put_server, put_server]
      exact congrArg (Except.map _) (server_ofItems items)
  | database =>
      show settings.put "database" _ = settings.put "database" _
      rw [put_database, put_database]
      exact congrArg (Except.map _) (database_ofItems items)

/-- An empty array leaves a part as it is built in. -/
lemma put_empty {settings : Settings} {part : Part} (isBuiltIn : part.IsBuiltIn settings) :
    settings.put part.name (.array []) = .ok settings := by
  cases part with
  | server =>
      show settings.put "server" _ = _
      rw [put_server]
      show Except.ok { settings with server := {} } = _
      rw [← show settings.server = {} from isBuiltIn]
  | database =>
      show settings.put "database" _ = _
      rw [put_database]
      show Except.ok { settings with database := {} } = _
      rw [← show settings.database = {} from isBuiltIn]

/-! ## Documents -/

/-- Whether a document with other entries names the items of arrays, part by part: where an entry of
the first is an array for a part, the other may have the table of that array, or nothing if the
array is empty. All else is the same. -/
inductive Names : Entries → Entries → Prop
  | nil : Names [] []
  | same {entries others : Entries} (entry : String × Toml.Value) (names : Names entries others) :
      Names (entry :: entries) (entry :: others)
  | named {entries others : Entries} (part : Part) (items : List Toml.Value)
      (names : Names entries others) :
      Names ((part.name, .array items) :: entries) ((part.name, part.tableOf items) :: others)
  | absent {entries others : Entries} (part : Part) (names : Names entries others) :
      Names ((part.name, .array []) :: entries) others

/-- The settings with these entries of a document taken into account. -/
def putAll (settings : Settings) (entries : Entries) : Except Mismatch Settings :=
  entries.foldlM (fun settings entry => settings.put entry.1 entry.2) settings

/-- Whether the parts that some entries name are still the built-in ones. -/
def AreNew (entries : Entries) (settings : Settings) : Prop :=
  ∀ part : Part, part.name ∈ entries.map Prod.fst → part.IsBuiltIn settings

variable {entries others : Entries} {settings : Settings}

/-- Entries are taken one after the other. -/
lemma putAll_cons (settings : Settings) (entry : String × Toml.Value) (entries : Entries) :
    settings.putAll (entry :: entries) = (settings.put entry.1 entry.2).bind (·.putAll entries) :=
  List.foldlM_cons

/-- Two documents that begin with the same entry are decoded alike, if they are from there on. -/
lemma putAll_cons_congr {name : String} {value : Toml.Value} (apart : name ∉ entries.map Prod.fst)
    (areNew : AreNew ((name, value) :: entries) settings)
    (alike : ∀ next, AreNew entries next → next.putAll others = next.putAll entries) :
    (settings.put name value).bind (·.putAll others) =
      (settings.put name value).bind (·.putAll entries) := by
  rcases taken : settings.put name value with cause | next
  · rfl
  · refine alike next fun part among => isBuiltIn_put taken ?_
      (areNew part (List.mem_cons_of_mem _ among))
    rintro rfl
    exact apart among

/-- **A document is decoded as before** if it names the items of its arrays. -/
lemma ofEntries_of_names (names : Names entries others) (apart : (entries.map Prod.fst).Nodup) :
    ofEntries others = ofEntries entries := by
  suffices alike : ∀ settings, AreNew entries settings →
      settings.putAll others = settings.putAll entries from
    alike builtIn fun part _ => by cases part <;> rfl
  induction names with
  | nil => exact fun _ _ => rfl
  | same entry names ih =>
      intro settings areNew
      rw [List.map_cons, List.nodup_cons] at apart
      rw [putAll_cons, putAll_cons]
      exact putAll_cons_congr apart.1 areNew (ih apart.2)
  | named part items names ih =>
      intro settings areNew
      rw [List.map_cons, List.nodup_cons] at apart
      rw [putAll_cons, putAll_cons, ← put_array]
      exact putAll_cons_congr apart.1 areNew (ih apart.2)
  | absent part names ih =>
      intro settings areNew
      rw [List.map_cons, List.nodup_cons] at apart
      rw [putAll_cons, put_empty (areNew part List.mem_cons_self)]
      exact ih apart.2 settings fun part among => areNew part (List.mem_cons_of_mem _ among)

/-- A part that is absent, or an empty array, is built in. -/
lemma isBuiltIn_of_ofEntries {part : Part}
    (nothing : ∀ value, (part.name, value) ∈ entries → value = .array [])
    (decoded : ofEntries entries = .ok settings) : part.IsBuiltIn settings := by
  suffices stays : ∀ first : Settings, part.IsBuiltIn first →
      first.putAll entries = .ok settings → part.IsBuiltIn settings from
    stays builtIn (by cases part <;> rfl) decoded
  clear decoded
  induction entries with
  | nil =>
      intro first isBuiltIn taken
      cases taken
      exact isBuiltIn
  | cons entry entries ih =>
      intro first isBuiltIn taken
      obtain ⟨name, value⟩ := entry
      have later := ih fun value among => nothing value (List.mem_cons_of_mem _ among)
      rw [putAll_cons] at taken
      by_cases named : name = part.name
      · subst named
        rw [nothing value List.mem_cons_self, put_empty isBuiltIn] at taken
        exact later first isBuiltIn taken
      · rcases put_eq : first.put name value with cause | next
        · rw [put_eq] at taken
          cases taken
        · rw [put_eq] at taken
          exact later next (isBuiltIn_put put_eq named isBuiltIn) taken

/-! ## Loading -/

section Loading

variable {files : Files} {path document : String}

/-- A well-formed document is loaded as its entries are decoded. -/
lemma load_eq_ofEntries
    (stored : files.read (.ofText path) = .ok (.bytes (Utf8.encode document)))
    (isTree : parse? document = some entries) :
    load files path =
      match ofEntries entries with
      | .error cause => .error (.unfit path cause)
      | .ok settings => .ok settings := by
  rw [load_of_stored stored]
  unfold ofText
  rcases decided : ofEntries entries with cause | settings <;> simp only [isTree, decided]

/-- **Positions and names agree.** A document with an array for a part, of any items and any length,
is loaded as one with the table of that array in its place, to the same settings or the same
mismatch. It does not matter whether this is done for one part or for both, nor what else the
document states. An empty array may as well be left out: either way its part is built in. -/
theorem positions_agree_with_names
    (stored : files.read (.ofText path) = .ok (.bytes (Utf8.encode document)))
    (isTree : parse? document = some entries) :
    (∀ (otherFiles : Files) (otherDocument : String) (others : Entries),
      otherFiles.read (.ofText path) = .ok (.bytes (Utf8.encode otherDocument)) →
      parse? otherDocument = some others → Names entries others →
        load otherFiles path = load files path) ∧
    (∀ part : Part, entries.lookup part.name = none ∨ entries.lookup part.name = some (.array []) →
      ∀ settings, load files path = .ok settings → part.IsBuiltIn settings) := by
  have apart := (distinct_of_parse? isTree).of_table.1
  refine ⟨fun otherFiles otherDocument others otherStored otherTree names => ?_,
    fun part nothing settings loaded => ?_⟩
  · rw [load_eq_ofEntries stored isTree, load_eq_ofEntries otherStored otherTree,
      ofEntries_of_names names apart]
  · rw [load_eq_ofEntries stored isTree] at loaded
    rcases decoded : ofEntries entries with cause | decodedSettings <;> rw [decoded] at loaded <;>
      cases loaded
    refine isBuiltIn_of_ofEntries (fun value among => ?_) decoded
    have found := (lookup_eq_some_iff_mem apart).2 among
    rcases nothing with isAbsent | isEmpty
    · rw [isAbsent] at found
      cases found
    · rw [isEmpty] at found
      exact (Option.some.inj found).symm

end Loading

/-- A file with some document. -/
def fileOf (document : String) : Files :=
  (Files.fresh []).set [[0x61]] (.file (.bytes (Utf8.encode document)))

/-- The two settings of the server by position, with an item too many, and an empty array for the
database, are loaded as the two settings by name. A server that is an array of tables has a table
for its address, which fits under the name of the address no better. -/
theorem positions_agree_with_names_of_server :
    let byPosition := fileOf "server = [\"h\", 80, true]\ndatabase = []"
    let byName := fileOf "server = \x7b bind_address = \"h\", port = 80 \x7d"
    load byName "a" = load byPosition "a" ∧
      load byPosition "a" = .ok { server := { bindAddress := "h", port := 80 } } ∧
      load (fileOf "server.bind_address.port = 80") "a" =
        load (fileOf "[[server]]\nport = 80") "a" := by
  have stored (document : String) :
      (fileOf document).read (.ofText "a") = .ok (.bytes (Utf8.encode document)) := rfl
  have byPosition : parse? "server = [\"h\", 80, true]\ndatabase = []" =
      some [("server", .array [.text "h", .integer 80, .boolean true]), ("database", .array [])] := by
    cbv
  have byName : parse? "server = \x7b bind_address = \"h\", port = 80 \x7d" =
      some [("server", .table [("bind_address", .text "h"), ("port", .integer 80)])] := by
    cbv
  have tables : parse? "[[server]]\nport = 80" =
      some [("server", .array [.table [("port", .integer 80)]])] := by
    cbv
  have table : parse? "server.bind_address.port = 80" =
      some [("server", .table [("bind_address", .table [("port", .integer 80)])])] := by
    cbv
  refine ⟨?_, ?_, ?_⟩
  · obtain ⟨agree, -⟩ := positions_agree_with_names (stored _) byPosition
    exact agree _ _ _ (stored _) byName (.named .server _ (.absent .database .nil))
  · rw [load_eq_ofEntries (stored _) byPosition]
    rfl
  · obtain ⟨agree, -⟩ := positions_agree_with_names (stored _) tables
    exact agree _ _ _ (stored _) table (.named .server _ .nil)

end AppCatalog.Settings
