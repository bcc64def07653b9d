import AppCatalog.Proofs.Settings.Loading

/-!
# The places of a document

Where a document holds something that has to fit, and how settings are decoded from what it holds
there.

* **The places** (`places`) of a document are its known settings, and its parts where they are no
  tables. They come in document order.
* **One place** is taken or refused (`Place.take_of_takes`, `Place.take_of_not_takes`), and from it
  all of them (`takeAll_of_takes`, `takeAll_of_misfit`).
* **Decoding a document is one pass over its places** (`ofEntries_eq_takeAll`), if no part of it is
  an array.
-/

namespace AppCatalog.Settings

open Toml

/-! ## What fits -/

/-- Whether a value fits a setting. -/
def Key.Takes : Key → Toml.Value → Prop
  | bindAddress, .text _ => True
  | port, .integer n => 0 ≤ n ∧ n ≤ 65535
  | backend, .text _ => True
  | path, .text _ => True
  | maxConnections, .integer n => 0 ≤ n ∧ n ≤ 4294967295
  | enableWal, .boolean _ => True
  | _, _ => False

/-- Whether a value can be a part of the settings. A date or a time is one without entries. -/
def Part.Takes : Toml.Value → Prop
  | .table _ => True
  | .dateTime => True
  | _ => False

/-- Where a document holds something that has to fit. -/
inductive Place where
  | part (part : Part)
  | key (setting : Key)
  deriving Repr, DecidableEq

namespace Place

/-- Whether a value fits a place. -/
def Takes : Place → Toml.Value → Prop
  | part _ => Part.Takes
  | key setting => setting.Takes

/-- What a place may have to be. -/
def expected : Place → Expected
  | part .server => .server
  | part .database => .database
  | key .bindAddress => .text
  | key .port => .port
  | key .backend => .text
  | key .path => .path
  | key .maxConnections => .count
  | key .enableWal => .truth

/-- What is wrong with a value that does not fit: a whole number where one is expected is out of
range, and everything else is of another kind. -/
def fault : Place → Toml.Value → String
  | key .port, .integer _ => "invalid value: "
  | key .maxConnections, .integer _ => "invalid value: "
  | _, _ => "invalid type: "

/-- The message about a value that does not fit. -/
def complaint (place : Place) (value : Toml.Value) : String :=
  place.fault value ++ (Found.ofValue value).message ++ ", expected " ++ place.expected.message

end Place

/-! ## The places of a document -/

/-- The part with that name. -/
def Part.named? (name : String) : Option Part :=
  [server, database].find? fun part => part.name = name

/-- The setting of a part with that name. -/
def Part.key? (part : Part) (name : String) : Option Key :=
  [Key.bindAddress, .port, .backend, .path, .maxConnections, .enableWal].find? fun key =>
    key.part = part ∧ key.name = name

/-- The places of a part, with what they hold: its settings, or the part itself if it is no
table. -/
def Part.places (part : Part) : Toml.Value → List (Place × Toml.Value)
  | .table entries =>
    entries.filterMap fun entry => (part.key? entry.1).map fun key => (.key key, entry.2)
  | value => [(.part part, value)]

/-- The places of a document, in document order, with what they hold. -/
def places (entries : Entries) : List (Place × Toml.Value) :=
  entries.flatMap fun entry =>
    match Part.named? entry.1 with
    | some part => part.places entry.2
    | none => []

/-- The part with a name is the one that has it. -/
lemma Part.named?_eq_some {part : Part} {name : String} :
    Part.named? name = some part ↔ name = part.name := by
  refine ⟨fun found => ?_, ?_⟩
  · unfold Part.named? at found
    have named := List.find?_some found
    exact (of_decide_eq_true named).symm
  · rintro rfl
    cases part <;> rfl

/-- No part has the name if none is found. -/
lemma Part.named?_eq_none {name : String} :
    Part.named? name = none ↔ ∀ part : Part, name ≠ part.name := by
  rw [Option.eq_none_iff_forall_ne_some]
  simp only [ne_eq, Part.named?_eq_some]

/-- The setting with a name is the one that has it. -/
lemma Part.key?_eq_some {part : Part} {key : Key} {name : String} :
    part.key? name = some key ↔ key.part = part ∧ name = key.name := by
  refine ⟨fun found => ?_, ?_⟩
  · unfold Part.key? at found
    have named := List.find?_some found
    have both := of_decide_eq_true named
    exact ⟨both.1, both.2.symm⟩
  · rintro ⟨rfl, rfl⟩
    cases key <;> rfl

/-- No setting of the part has the name if none is found. -/
lemma Part.key?_eq_none {part : Part} {name : String} :
    part.key? name = none ↔ ∀ key : Key, key.part = part → name ≠ key.name := by
  rw [Option.eq_none_iff_forall_ne_some]
  simp only [ne_eq, Part.key?_eq_some, not_and]

/-! ## Taking one place -/

/-- The settings with what a place holds. -/
def Place.take (settings : Settings) : Place → Toml.Value → Except Mismatch Settings
  | .part _, .table _ => .ok settings
  | .part _, .dateTime => .ok settings
  | .part which, value => .error (.wrongKind (.ofValue value) (Place.part which).expected)
  | .key setting, value =>
    match setting.part with
    | .server =>
      (settings.server.put setting.name value).map fun server => { settings with server }
    | .database =>
      (settings.database.put setting.name value).map fun database => { settings with database }

section Take

variable (settings : Settings) {place : Place} {key : Key} {value : Toml.Value}

/-- A port in range is one of 16 bits. -/
lemma exists_port {n : Int} (takes : Key.port.Takes (.integer n)) :
    ∃ port : UInt16, n = port.toNat := by
  refine ⟨.ofNat n.toNat, ?_⟩
  obtain ⟨low, high⟩ := takes
  rw [UInt16.toNat_ofNat']
  omega

/-- A count in range is one of 32 bits. -/
lemma exists_count {n : Int} (takes : Key.maxConnections.Takes (.integer n)) :
    ∃ count : UInt32, n = count.toNat := by
  refine ⟨.ofNat n.toNat, ?_⟩
  obtain ⟨low, high⟩ := takes
  rw [UInt32.toNat_ofNat']
  omega

/-- A whole number out of range is refused. -/
lemma asNat_of_outOfRange (expected : Expected) {n : Int} {limit : Nat}
    (outside : ¬ (0 ≤ n ∧ n < limit)) :
    (Toml.Value.integer n).asNat expected limit = .error (.outOfRange n expected) :=
  if_neg outside

/-- **A setting that fits is taken**, and no other setting changes. -/
lemma take_key_of_takes (takes : key.Takes value) :
    ∃ next, (Place.key key).take settings value = .ok next ∧ key.value next = value ∧
      ∀ other, other ≠ key → other.value next = other.value settings := by
  cases key <;> cases value
  case port.integer n =>
      obtain ⟨port, rfl⟩ := exists_port takes
      refine ⟨{ settings with server := { settings.server with port } }, ?_, rfl, ?_⟩
      · have taken : settings.server.put "port" (.integer port.toNat) =
            .ok { settings.server with port } := by
          simp [ServerSettings.put, asPort_integer]
        unfold Place.take
        dsimp only [Key.part, Key.name]
        rw [taken]
        rfl
      · intro other apart
        cases other <;> first | rfl | exact absurd rfl apart
  case maxConnections.integer n =>
      obtain ⟨maxConnections, rfl⟩ := exists_count takes
      refine ⟨{ settings with database := { settings.database with maxConnections } }, ?_, rfl, ?_⟩
      · have taken : settings.database.put "max_connections" (.integer maxConnections.toNat) =
            .ok { settings.database with maxConnections } := by
          simp [DatabaseSettings.put, asCount_integer]
        unfold Place.take
        dsimp only [Key.part, Key.name]
        rw [taken]
        rfl
      · intro other apart
        cases other <;> first | rfl | exact absurd rfl apart
  all_goals cases takes
  all_goals
    refine ⟨_, rfl, rfl, fun other apart => ?_⟩
    cases other <;> first | rfl | exact absurd rfl apart

/-- **A setting that does not fit is refused** with a message about it. -/
lemma take_key_of_not_takes (misfit : ¬ key.Takes value) :
    ∃ cause, (Place.key key).take settings value = .error cause ∧
      cause.message = (Place.key key).complaint value := by
  cases key <;> cases value
  case port.integer n =>
      have outside : ¬ (0 ≤ n ∧ n < UInt16.size) := fun inside =>
        misfit ⟨inside.1, Int.le_of_lt_add_one inside.2⟩
      have refused : settings.server.put "port" (.integer n) = .error (.outOfRange n .port) := by
        simp [ServerSettings.put, Toml.Value.asPort, asNat_of_outOfRange .port outside, Except.map]
      refine ⟨.outOfRange n .port, ?_, rfl⟩
      unfold Place.take
      dsimp only [Key.part, Key.name]
      rw [refused]
      rfl
  case maxConnections.integer n =>
      have outside : ¬ (0 ≤ n ∧ n < UInt32.size) := fun inside =>
        misfit ⟨inside.1, Int.le_of_lt_add_one inside.2⟩
      have refused : settings.database.put "max_connections" (.integer n) =
          .error (.outOfRange n .count) := by
        simp [DatabaseSettings.put, Toml.Value.asCount, asNat_of_outOfRange .count outside,
          Except.map]
      refine ⟨.outOfRange n .count, ?_, rfl⟩
      unfold Place.take
      dsimp only [Key.part, Key.name]
      rw [refused]
      rfl
  case bindAddress.text => exact absurd trivial misfit
  case backend.text => exact absurd trivial misfit
  case path.text => exact absurd trivial misfit
  case enableWal.boolean => exact absurd trivial misfit
  all_goals exact ⟨_, rfl, rfl⟩

/-- **What fits a place is taken there**, and no other setting changes. -/
lemma Place.take_of_takes (takes : place.Takes value) :
    ∃ next, place.take settings value = .ok next ∧
      ∀ key, key.value next = if place = .key key then value else key.value settings := by
  cases place with
  | part which =>
      have same : (Place.part which).take settings value = .ok settings := by
        cases value <;> first | rfl | cases takes
      exact ⟨settings, same, fun key => (if_neg nofun).symm⟩
  | key setting =>
      obtain ⟨next, taken, own, others⟩ := take_key_of_takes settings takes
      refine ⟨next, taken, fun key => ?_⟩
      by_cases same : key = setting
      · rw [same, if_pos rfl, own]
      · rw [others key same, if_neg fun isPlace => same (Place.key.inj isPlace).symm]

/-- **What does not fit a place is refused there**, with a message about it. -/
lemma Place.take_of_not_takes (misfit : ¬ place.Takes value) :
    ∃ cause, place.take settings value = .error cause ∧
      cause.message = place.complaint value := by
  cases place with
  | part which =>
      cases value <;> first | exact ⟨_, rfl, rfl⟩ | exact absurd trivial misfit
  | key setting => exact take_key_of_not_takes settings misfit

end Take

/-! ## Taking all places -/

/-- The settings with what all these places hold. -/
def takeAll (settings : Settings) (found : List (Place × Toml.Value)) :
    Except Mismatch Settings :=
  found.foldlM (fun settings entry => entry.1.take settings entry.2) settings

/-- Places are taken one after the other. -/
lemma takeAll_append (settings : Settings) (found more : List (Place × Toml.Value)) :
    settings.takeAll (found ++ more) = (settings.takeAll found).bind (·.takeAll more) :=
  List.foldlM_append

/-- **Places that all fit are taken**: each setting gets what its last place holds, and stays if it
has none. -/
lemma takeAll_of_takes (settings : Settings) {found : List (Place × Toml.Value)}
    (takes : ∀ entry ∈ found, entry.1.Takes entry.2) :
    ∃ next, settings.takeAll found = .ok next ∧
      ∀ key, key.value next = (found.reverse.lookup (.key key)).getD (key.value settings) := by
  induction found using List.reverseRecOn with
  | nil => exact ⟨settings, rfl, fun _ => rfl⟩
  | append_singleton found entry ih =>
      obtain ⟨place, value⟩ := entry
      rw [List.forall_mem_append, List.forall_mem_singleton] at takes
      obtain ⟨middle, before, earlier⟩ := ih takes.1
      obtain ⟨next, taken, last⟩ := place.take_of_takes middle takes.2
      refine ⟨next, ?_, fun key => ?_⟩
      · rw [takeAll_append, before]
        show (place.take middle value).bind _ = _
        rw [taken]
        rfl
      · rw [last, List.reverse_append, List.reverse_singleton, List.singleton_append,
          List.lookup_cons]
        by_cases same : place = .key key
        · rw [if_pos same, same, beq_self_eq_true]
          rfl
        · rw [if_neg same, beq_false_of_ne fun other => same other.symm]
          exact earlier key

/-- **The first place that does not fit is reported.** -/
lemma takeAll_of_misfit (settings : Settings) {before : List (Place × Toml.Value)}
    {place : Place} {value : Toml.Value} (after : List (Place × Toml.Value))
    (takes : ∀ entry ∈ before, entry.1.Takes entry.2)
    (misfit : ¬ place.Takes value) :
    ∃ cause, settings.takeAll (before ++ (place, value) :: after) = .error cause ∧
      cause.message = place.complaint value := by
  obtain ⟨middle, taken, -⟩ := takeAll_of_takes settings takes
  obtain ⟨cause, refused, message⟩ := place.take_of_not_takes middle misfit
  refine ⟨cause, ?_, message⟩
  rw [takeAll_append, taken]
  show (place.take middle value).bind _ = _
  rw [refused]
  rfl

/-- Places either all fit, or there is a first one that does not. -/
lemma all_take_or (found : List (Place × Toml.Value)) :
    (∀ entry ∈ found, entry.1.Takes entry.2) ∨
      ∃ before place value after, found = before ++ (place, value) :: after ∧
        (∀ entry ∈ before, entry.1.Takes entry.2) ∧ ¬ place.Takes value := by
  induction found with
  | nil => exact .inl (List.forall_mem_nil _)
  | cons entry found ih =>
      by_cases fits : entry.1.Takes entry.2
      · rcases ih with all | ⟨before, place, value, after, rfl, takes, misfit⟩
        · exact .inl (List.forall_mem_cons.2 ⟨fits, all⟩)
        · exact .inr ⟨entry :: before, place, value, after, rfl,
            List.forall_mem_cons.2 ⟨fits, takes⟩, misfit⟩
      · exact .inr ⟨[], entry.1, entry.2, found, rfl, List.forall_mem_nil _, fits⟩

/-! ## Decoding is one pass over the places -/

section Part

variable {α : Type} (part : Part) (get : Settings → α) (set : Settings → α → Settings)
  (put : α → String → Toml.Value → Except Mismatch α)

/-- **The entries of a part are taken place by place**, if the part is put together from its
settings and keys that are not known are ignored. -/
lemma put_entries (get_set : ∀ settings content, get (set settings content) = content)
    (set_set : ∀ settings content other,
      set (set settings content) other = set settings other)
    (set_get : ∀ settings, set settings (get settings) = settings)
    (known : ∀ settings (key : Key) value, key.part = part →
      (Place.key key).take settings value =
        (put (get settings) key.name value).map (set settings))
    (unknown : ∀ content name value, part.key? name = none → put content name value = .ok content)
    (entries : Entries) (settings : Settings) :
    (entries.foldlM (fun content entry => put content entry.1 entry.2) (get settings)).map
        (set settings) =
      settings.takeAll (part.places (.table entries)) := by
  induction entries generalizing settings with
  | nil => exact congrArg Except.ok (set_get settings)
  | cons entry entries ih =>
      have step (next : α) : (entries.foldlM (fun content entry => put content entry.1 entry.2)
          next).map (set settings) =
            (set settings next).takeAll (part.places (.table entries)) := by
        rw [← ih, get_set]
        exact congrArg (Except.map · _) (funext (set_set settings next)).symm
      show ((put (get settings) entry.1 entry.2).bind _).map (set settings) = _
      rcases named : part.key? entry.1 with _ | key
      · have skipped : part.places (.table (entry :: entries)) = part.places (.table entries) := by
          dsimp only [Part.places]
          rw [List.filterMap_cons, named, Option.map_none]
        rw [unknown _ _ _ named, skipped, ← ih]
        rfl
      · have first : part.places (.table (entry :: entries)) =
            (.key key, entry.2) :: part.places (.table entries) := by
          dsimp only [Part.places]
          rw [List.filterMap_cons, named, Option.map_some]
        obtain ⟨inPart, same⟩ := Part.key?_eq_some.1 named
        have taken := known settings key entry.2 inPart
        rw [first]
        show _ = ((Place.key key).take settings entry.2).bind _
        rw [taken, same]
        rcases put (get settings) key.name entry.2 with cause | next
        · rfl
        · exact step next

end Part

/-- Keys that are not settings of the server are ignored. -/
lemma server_put_unknown (server : ServerSettings) (name : String) (value : Toml.Value)
    (unknown : Part.server.key? name = none) : server.put name value = .ok server := by
  rw [Part.key?_eq_none] at unknown
  have bindAddress : name ≠ "bind_address" := unknown .bindAddress rfl
  have port : name ≠ "port" := unknown .port rfl
  unfold ServerSettings.put
  rw [if_neg bindAddress, if_neg port]

/-- Keys that are not settings of the database are ignored. -/
lemma database_put_unknown (database : DatabaseSettings) (name : String) (value : Toml.Value)
    (unknown : Part.database.key? name = none) : database.put name value = .ok database := by
  rw [Part.key?_eq_none] at unknown
  have backend : name ≠ "backend" := unknown .backend rfl
  have path : name ≠ "path" := unknown .path rfl
  have maxConnections : name ≠ "max_connections" := unknown .maxConnections rfl
  have enableWal : name ≠ "enable_wal" := unknown .enableWal rfl
  unfold DatabaseSettings.put
  rw [if_neg backend, if_neg path, if_neg maxConnections, if_neg enableWal]

/-- Whether the settings of a part are the built-in ones. -/
def Part.IsBuiltIn (settings : Settings) : Part → Prop
  | server => settings.server = {}
  | database => settings.database = {}

variable {settings : Settings}

/-- The server's settings are decoded apart from the others. -/
lemma put_server (value : Toml.Value) : settings.put "server" value =
    (ServerSettings.ofValue value).map fun server => { settings with server } := by
  unfold put
  rw [if_pos rfl]
  cases ServerSettings.ofValue value <;> rfl

/-- The database's settings are decoded apart from the others. -/
lemma put_database (value : Toml.Value) : settings.put "database" value =
    (DatabaseSettings.ofValue value).map fun database => { settings with database } := by
  unfold put
  rw [if_neg (by decide), if_pos rfl]
  cases DatabaseSettings.ofValue value <;> rfl

/-- **A part is taken place by place**, if nothing of it has been taken before. -/
lemma put_part_value {part : Part} {value : Toml.Value} (isNew : part.IsBuiltIn settings)
    (noArray : ∀ items, value ≠ .array items) :
    settings.put part.name value = settings.takeAll (part.places value) := by
  cases part with
  | server =>
      show settings.put "server" value = _
      rw [put_server]
      cases value with
      | table entries =>
          have taken := put_entries .server server (fun settings server => { settings with server })
            ServerSettings.put (fun _ _ => rfl) (fun _ _ _ => rfl) (fun _ => rfl)
            (fun settings key value inPart => by simp only [Place.take, inPart])
            server_put_unknown entries settings
          rw [show settings.server = {} from isNew] at taken
          exact taken
      | dateTime =>
          show Except.ok { settings with server := {} } = Except.ok settings
          rw [← show settings.server = {} from isNew]
      | array items => exact absurd rfl (noArray items)
      | _ => rfl
  | database =>
      show settings.put "database" value = _
      rw [put_database]
      cases value with
      | table entries =>
          have taken := put_entries .database database
            (fun settings database => { settings with database })
            DatabaseSettings.put (fun _ _ => rfl) (fun _ _ _ => rfl) (fun _ => rfl)
            (fun settings key value inPart => by simp only [Place.take, inPart])
            database_put_unknown entries settings
          rw [show settings.database = {} from isNew] at taken
          exact taken
      | dateTime =>
          show Except.ok { settings with database := {} } = Except.ok settings
          rw [← show settings.database = {} from isNew]
      | array items => exact absurd rfl (noArray items)
      | _ => rfl

/-- Keys that are no parts are ignored. -/
lemma put_unknown {name : String} (unknown : ∀ part : Part, name ≠ part.name)
    (value : Toml.Value) : settings.put name value = .ok settings := by
  have server : name ≠ "server" := unknown .server
  have database : name ≠ "database" := unknown .database
  unfold put
  rw [if_neg server, if_neg database]

/-- Taking one key leaves the parts with other names as they are. -/
lemma isBuiltIn_put {name : String} {value : Toml.Value} {next : Settings}
    (taken : settings.put name value = .ok next) {part : Part} (apart : name ≠ part.name)
    (isNew : part.IsBuiltIn settings) : part.IsBuiltIn next := by
  by_cases isServer : name = "server"
  · rw [isServer, put_server] at taken
    cases part with
    | server => exact absurd isServer apart
    | database =>
        generalize ServerSettings.ofValue value = decoded at taken
        cases decoded <;> cases taken
        exact isNew
  · by_cases isDatabase : name = "database"
    · rw [isDatabase, put_database] at taken
      cases part with
      | server =>
          generalize DatabaseSettings.ofValue value = decoded at taken
          cases decoded <;> cases taken
          exact isNew
      | database => exact absurd isDatabase apart
    · unfold put at taken
      rw [if_neg isServer, if_neg isDatabase] at taken
      cases taken
      exact isNew

/-- **Decoding a document is one pass over its places**, in document order. -/
lemma ofEntries_eq_takeAll {entries : Entries} (apart : (entries.map Prod.fst).Nodup)
    (noArray : ∀ part : Part, ∀ items, (part.name, .array items) ∉ entries) :
    ofEntries entries = builtIn.takeAll (places entries) := by
  suffices fold : ∀ settings : Settings,
      (∀ part : Part, part.name ∈ entries.map Prod.fst → part.IsBuiltIn settings) →
        entries.foldlM (fun settings entry => settings.put entry.1 entry.2) settings =
          settings.takeAll (places entries) from
    fold builtIn fun part _ => by cases part <;> rfl
  induction entries with
  | nil => exact fun _ _ => rfl
  | cons entry entries ih =>
      intro settings isNew
      obtain ⟨name, value⟩ := entry
      rw [List.map_cons, List.nodup_cons] at apart
      have noArrayBelow : ∀ part : Part, ∀ items, (part.name, .array items) ∉ entries :=
        fun part items among => noArray part items (List.mem_cons_of_mem _ among)
      have first : settings.put name value = settings.takeAll (places [(name, value)]) := by
        have single : places [(name, value)] = match Part.named? name with
            | some part => part.places value
            | none => [] := List.flatMap_singleton _ _
        rw [single]
        rcases named : Part.named? name with _ | part
        · exact put_unknown (Part.named?_eq_none.1 named) value
        · have same := Part.named?_eq_some.1 named
          subst same
          refine put_part_value (isNew part List.mem_cons_self) ?_
          rintro items rfl
          exact noArray part items List.mem_cons_self
      have split :
          places ((name, value) :: entries) = places [(name, value)] ++ places entries := by
        unfold places
        rw [← List.flatMap_append, List.singleton_append]
      show (settings.put name value).bind _ = _
      rw [split, takeAll_append, ← first]
      rcases taken : settings.put name value with cause | next
      · rfl
      · refine ih apart.2 noArrayBelow next fun part among => ?_
        refine isBuiltIn_put taken ?_ (isNew part (List.mem_cons_of_mem _ among))
        rintro rfl
        exact apart.1 among

end AppCatalog.Settings
