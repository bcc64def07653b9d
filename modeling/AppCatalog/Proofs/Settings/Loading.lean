import AppCatalog.Proofs.Settings.Layout
import AppCatalog.Proofs.Text.Utf8
import AppCatalog.Settings.Loading

/-!
# Settings are loaded as they are laid out

A document may state any of the settings, in any layout; what it does not state stays built in.

* **The settings that are stated** (`Settings.only`) are taken from a part as they are taken from a
  document: the order in which they are stated makes no difference (`ofEntries_rows`).
* **Loading a laid-out document** (`load_of_layout`) gives the settings that it states.
* **What is written is laid out** (`spells_document`): the document that states every setting is one
  of these documents, and gives them all back (`load_document`).
-/

namespace AppCatalog.Settings

open Toml

/-! ## Settings of some keys -/

/-- These settings for some keys, the built-in ones for all others. -/
def only (settings : Settings) (keys : List Key) : Settings where
  server :=
    { bindAddress :=
        if .bindAddress ∈ keys then settings.server.bindAddress else builtIn.server.bindAddress
      port := if .port ∈ keys then settings.server.port else builtIn.server.port }
  database :=
    { backend := if .backend ∈ keys then settings.database.backend else builtIn.database.backend
      path := if .path ∈ keys then settings.database.path else builtIn.database.path
      maxConnections :=
        if .maxConnections ∈ keys then settings.database.maxConnections
        else builtIn.database.maxConnections
      enableWal :=
        if .enableWal ∈ keys then settings.database.enableWal else builtIn.database.enableWal }

variable (settings : Settings)

/-- It makes no difference in which order keys are listed, or how often. -/
lemma only_congr {keys others : List Key} (same : ∀ key, key ∈ keys ↔ key ∈ others) :
    settings.only keys = settings.only others := by
  simp only [only, same]

/-! ## Decoding stated settings -/

/-- A whole number below the limit is decoded as it was stated. -/
lemma asNat_integer (expected : Expected) {n limit : Nat} (small : n < limit) :
    (Toml.Value.integer n).asNat expected limit = .ok n :=
  if_pos ⟨Int.natCast_nonneg n, Int.ofNat_lt.2 small⟩

/-- A port is decoded as it was stated. -/
lemma asPort_integer (port : UInt16) : (Toml.Value.integer port.toNat).asPort = .ok port := by
  unfold Toml.Value.asPort
  rw [asNat_integer .port port.toNat_lt_size, Except.map, Nat.toUInt16, UInt16.ofNat_toNat]

/-- A count is decoded as it was stated. -/
lemma asCount_integer (count : UInt32) : (Toml.Value.integer count.toNat).asCount = .ok count := by
  unfold Toml.Value.asCount
  rw [asNat_integer .count count.toNat_lt_size, Except.map, Nat.toUInt32, UInt32.ofNat_toNat]

/-- A setting of the server that is stated is taken. -/
lemma server_put {key : Key} (inPart : key.part = .server) (seen : List Key) :
    (settings.only seen).server.put key.name (key.value settings) =
      .ok (settings.only (seen ++ [key])).server := by
  cases key <;> cases inPart <;>
    simp [ServerSettings.put, Key.name, Key.value, Toml.Value.asText, asPort_integer, only]

/-- A setting of the database that is stated is taken. -/
lemma database_put {key : Key} (inPart : key.part = .database) (seen : List Key) :
    (settings.only seen).database.put key.name (key.value settings) =
      .ok (settings.only (seen ++ [key])).database := by
  cases key <;> cases inPart <;>
    simp [DatabaseSettings.put, Key.name, Key.value, Toml.Value.asText, Toml.Value.asTruth,
      asCount_integer, only]

/-- The settings of the server that are stated are taken together. -/
lemma server_ofValue {keys : List Key} (inPart : ∀ key ∈ keys, key.part = .server) :
    ServerSettings.ofValue (.table (stated settings keys)) = .ok (settings.only keys).server := by
  suffices fold : ∀ seen, (stated settings keys).foldlM
      (fun server entry => ServerSettings.put server entry.1 entry.2) (settings.only seen).server =
        .ok (settings.only (seen ++ keys)).server from fold []
  induction keys with
  | nil =>
      intro seen
      rw [List.append_nil]
      rfl
  | cons key keys ih =>
      intro seen
      rw [List.forall_mem_cons] at inPart
      show ((settings.only seen).server.put key.name (key.value settings)).bind _ = _
      have later := ih inPart.2 (seen ++ [key])
      rw [List.append_assoc] at later
      rw [server_put settings inPart.1]
      exact later

/-- The settings of the database that are stated are taken together. -/
lemma database_ofValue {keys : List Key} (inPart : ∀ key ∈ keys, key.part = .database) :
    DatabaseSettings.ofValue (.table (stated settings keys)) =
      .ok (settings.only keys).database := by
  suffices fold : ∀ seen, (stated settings keys).foldlM
      (fun database entry => DatabaseSettings.put database entry.1 entry.2)
        (settings.only seen).database = .ok (settings.only (seen ++ keys)).database from fold []
  induction keys with
  | nil =>
      intro seen
      rw [List.append_nil]
      rfl
  | cons key keys ih =>
      intro seen
      rw [List.forall_mem_cons] at inPart
      show ((settings.only seen).database.put key.name (key.value settings)).bind _ = _
      have later := ih inPart.2 (seen ++ [key])
      rw [List.append_assoc] at later
      rw [database_put settings inPart.1]
      exact later

/-- A part that was not met before is taken. -/
lemma put_part {part : Part} {keys seen : List Key} (inPart : ∀ key ∈ keys, key.part = part)
    (isNew : ∀ key ∈ seen, key.part ≠ part) :
    (settings.only seen).put part.name (.table (stated settings keys)) =
      .ok (settings.only (seen ++ keys)) := by
  have other : ∀ key : Key, key.part ≠ part → key ∉ keys := fun key apart among =>
    apart (inPart key among)
  have own : ∀ key : Key, key.part = part → key ∉ seen := fun key same among =>
    isNew key among same
  cases part with
  | server =>
      simp [put, Part.name, server_ofValue settings inPart, only, own .bindAddress rfl,
        own .port rfl, other .backend nofun, other .path nofun, other .maxConnections nofun,
        other .enableWal nofun]
  | database =>
      simp [put, Part.name, database_ofValue settings inPart, only, other .bindAddress nofun,
        other .port nofun, own .backend rfl, own .path rfl, own .maxConnections rfl,
        own .enableWal rfl]

/-- **A table of parts is decoded as it is stated.** -/
lemma ofEntries_rows {rows : List Headed} (distinct : (rows.map Prod.fst).Nodup)
    (placed : ∀ row ∈ rows, ∀ key ∈ row.2, key.part = row.1) :
    ofEntries (rows.map fun row => (row.1.name, .table (stated settings row.2))) =
      .ok (settings.only (rows.flatMap Prod.snd)) := by
  suffices fold : ∀ seen, (∀ key ∈ seen, key.part ∉ rows.map Prod.fst) →
      (rows.map fun row => (row.1.name, Toml.Value.table (stated settings row.2))).foldlM
        (fun settings entry => put settings entry.1 entry.2) (settings.only seen) =
          .ok (settings.only (seen ++ rows.flatMap Prod.snd)) from fold [] (List.forall_mem_nil _)
  induction rows with
  | nil =>
      intro seen _
      rw [List.flatMap_nil, List.append_nil]
      rfl
  | cons row rows ih =>
      intro seen isNew
      rw [List.map_cons, List.nodup_cons] at distinct
      rw [List.forall_mem_cons] at placed
      have notLater : ∀ key ∈ seen ++ row.2, key.part ∉ rows.map Prod.fst := by
        refine List.forall_mem_append.2 ⟨fun key among later => ?_, fun key among => ?_⟩
        · exact isNew key among (List.mem_cons_of_mem _ later)
        · rw [placed.1 key among]
          exact distinct.1
      have notThis : ∀ key ∈ seen, key.part ≠ row.1 := by
        intro key among same
        refine isNew key among ?_
        rw [same]
        exact List.mem_cons_self
      show ((settings.only seen).put row.1.name (.table (stated settings row.2))).bind _ = _
      rw [put_part settings placed.1 notThis, List.flatMap_cons, ← List.append_assoc]
      exact ih distinct.2 placed.2 _ notLater

/-! ## Loading -/

/-- Loading a file with a text takes the settings from the text. -/
lemma load_of_stored {files : Files} {path document : String}
    (stored : files.read (.ofText path) = .ok (.bytes (Utf8.encode document))) :
    load files path = ofText path document := by
  have isThere : files.pathExists (.ofText path) = true := by
    unfold Files.read at stored
    unfold Files.pathExists
    split at stored
    · next found => rw [found]
    · cases stored
    · cases stored
    · cases stored
  have isText : files.readText path = .ok document := by
    unfold Files.readText
    rw [stored]
    dsimp only
    rw [Utf8.decode?_encode]
  unfold load
  rw [if_pos isThere, isText]

/-- A laid-out document chooses the settings that it states. -/
lemma ofText_of_spells (layout : Layout) {document : String}
    (spells : layout.Spells settings document.toList) (path : String) :
    ofText path document = .ok (settings.only layout.keys) := by
  unfold ofText
  rw [layout.parse?_of_spells spells]
  dsimp only
  rw [ofEntries_rows settings layout.rows_distinct layout.rows_placed,
    settings.only_congr fun _ => layout.mem_rows]

/-- **A laid-out document is loaded as it is stated**: each setting has its value, and every setting
that the document leaves out is built in. -/
theorem load_of_layout (layout : Layout) {document : String}
    (spells : layout.Spells settings document.toList) {files : Files} {path : String}
    (stored : files.read (.ofText path) = .ok (.bytes (Utf8.encode document))) :
    load files path = .ok (settings.only layout.keys) := by
  rw [load_of_stored stored, ofText_of_spells settings layout spells]

/-- A port behind the name of its part, and a path under a header. -/
def portAndPath : Layout where
  form
    | .server => .dotted
    | .database => .header
  clauses := [.dotted .port]
  sections := [(.database, [.path])]
  clauses_form := by decide
  clauses_placed := by decide
  clauses_once := by decide
  sections_form := by decide
  sections_placed := by decide
  sections_once := by decide
  distinct := by decide

/-- A document in that layout, with an escape in the path. -/
def portAndPathDocument : String :=
  String.ofList ("server.port = 8080\n[database]\npath = \"a\\u0022b\"\n".toList)

/-- A file with that document. -/
def portAndPathFiles : Files :=
  (Files.fresh []).set [[0x61]] (.file (.bytes (Utf8.encode portAndPathDocument)))

/-- The two settings are loaded, and all others are built in. -/
theorem load_of_portAndPath :
    load portAndPathFiles "a" =
      .ok { server := { port := 8080 }, database := { path := "a\"b" } } := by
  refine load_of_layout { server := { port := 8080 }, database := { path := "a\"b" } } portAndPath
    ?_ (rfl : _ = Except.ok (Content.bytes (Utf8.encode portAndPathDocument)))
  have key : SpellsKey ["server", "port"] ("server.port".toList ++ [' ']) :=
    .dotted (spellsPart_toList (Part.isBare_name .server))
      (.one (spellsPart_spaced (Key.isBare_name .port)))
  have number : Spells (.integer (8080 : Nat)) "8080".toList := .integer (by decide)
  have port : SpellsLines [(["server", "port"], .integer (8080 : Nat))]
      "server.port = 8080\n".toList :=
    .cons (spellsAssignment_spaced key (by decide) (.scalar number)) spellsLineEnd_newline .nil
  have text : SpellsText "a\"b" "\"a\\u0022b\"".toList :=
    ⟨[['a'], ['\\', 'u', '0', '0', '2', '2'], ['b']],
      .cons (.plain rfl (by decide) (by decide))
        (.cons (.code (List.mem_cons_self : ('u', 4) ∈ codeMarks) rfl rfl)
          (.cons (.plain rfl (by decide) (by decide)) .nil)), rfl⟩
  have path : SpellsLines [(["path"], .text "a\"b")] "path = \"a\\u0022b\"\n".toList :=
    spellsLines_writtenLine (Key.isBare_name .path) (.scalar (.text text)) .nil
  exact ⟨_, [_], port, .cons (spellsSection_writtenHeader (Part.isBare_name .database) path) .nil,
    rfl⟩

/-! ## The document of all settings -/

/-- Every setting under the header of its part. -/
def everySetting : Layout where
  form _ := .header
  clauses := []
  sections :=
    [(.server, [.bindAddress, .port]), (.database, [.backend, .path, .maxConnections, .enableWal])]
  clauses_form := by decide
  clauses_placed := by decide
  clauses_once := by decide
  sections_form := by decide
  sections_placed := by decide
  sections_once := by decide
  distinct := by decide

/-- The document of all settings is laid out. -/
lemma spells_document : everySetting.Spells settings settings.document.toList := by
  have text (value : String) : SpellsValue (.text value) (writtenText value) :=
    .scalar (.text (spellsText_writtenText value))
  have number {n : Nat} (small : n < 2 ^ 32) : SpellsValue (.integer n) (writtenNat n) :=
    .scalar (.integer (by omega))
  have port : settings.server.port.toNat < 2 ^ 32 := by
    have := settings.server.port.toNat_lt
    omega
  have server := spellsSection_writtenHeader Part.server.isBare_name <|
    spellsLines_writtenLine Key.bindAddress.isBare_name (text settings.server.bindAddress) <|
    spellsLines_writtenLine Key.port.isBare_name (number port) <|
    .void spellsLineEnd_newline .nil
  have database := spellsSection_writtenHeader Part.database.isBare_name <|
    spellsLines_writtenLine Key.backend.isBare_name (text settings.database.backend) <|
    spellsLines_writtenLine Key.path.isBare_name (text settings.database.path) <|
    spellsLines_writtenLine Key.maxConnections.isBare_name
      (number settings.database.maxConnections.toNat_lt) <|
    spellsLines_writtenLine Key.enableWal.isBare_name
      (.scalar (.boolean settings.database.enableWal)) .nil
  refine ⟨[], _, .nil, .cons server (.cons database .nil), ?_⟩
  unfold document
  rw [String.toList_ofList]
  simp [Part.name, Key.name]

/-- **What is written is loaded back**: a file with the document of all settings gives them all. -/
theorem load_document {files : Files} {path : String}
    (stored : files.read (.ofText path) = .ok (.bytes (Utf8.encode settings.document))) :
    load files path = .ok settings := by
  rw [load_of_stored stored, ofText_of_spells settings everySetting (spells_document settings)]
  rfl


end AppCatalog.Settings
