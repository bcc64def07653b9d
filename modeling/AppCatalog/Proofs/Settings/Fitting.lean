import Mathlib.Logic.Relation
import AppCatalog.Proofs.Settings.Places
import AppCatalog.Proofs.Toml.Rearranging

/-!
# Which documents choose settings

What a document may state so that settings are loaded from it, which settings these are, and what is
reported otherwise. Parts that are arrays are left out: their items are taken by position.

* **A document fits** (`Fits`) if what it states for each setting fits, and that is so if all its
  places hold what fits there (`fits_iff`).
* **Keys that are not known** make no difference to the places (`Adds.places_eq`), and the order of
  the keys makes none to what is stated (`Fits.of_rearranges`).
* **Loading** (`load_decides`) succeeds for exactly the documents that fit, with what they state.
-/

namespace AppCatalog.Settings

open Toml

/-! ## What a document states -/

/-- The entries of a part: none if it is no table. -/
def Part.entries : Toml.Value → Entries
  | .table entries => entries
  | _ => []

/-- The value that a document states for a setting, if it states one. -/
def stated? (entries : Entries) (key : Key) : Option Toml.Value :=
  (entries.lookup key.part.name).bind fun value => (Part.entries value).lookup key.name

/-- Whether everything that a document states for known settings fits. -/
structure Fits (entries : Entries) : Prop where
  /-- The parts that are there are tables, or dates and times. -/
  parts : ∀ (part : Part) (value : Toml.Value), entries.lookup part.name = some value →
    Part.Takes value
  /-- The settings that are there have a value that fits. -/
  keys : ∀ (key : Key) (value : Toml.Value), stated? entries key = some value → key.Takes value

/-- Where the settings of a part are. -/
lemma Part.key_mem_places {part : Part} {key : Key} {value found : Toml.Value} :
    (Place.key key, found) ∈ part.places value ↔
      key.part = part ∧ (key.name, found) ∈ Part.entries value := by
  cases value with
  | table entries =>
      show _ ∈ entries.filterMap _ ↔ _ ∧ _ ∈ entries
      simp only [List.mem_filterMap, Option.map_eq_some_iff, Prod.mk.injEq, Place.key.injEq,
        Part.key?_eq_some]
      constructor
      · rintro ⟨⟨name, value⟩, among, _, ⟨inPart, rfl⟩, rfl, rfl⟩
        exact ⟨inPart, among⟩
      · rintro ⟨inPart, among⟩
        exact ⟨_, among, key, ⟨inPart, rfl⟩, rfl, rfl⟩
  | _ => simp [Part.places, Part.entries]

/-- Where a part itself is a place. -/
lemma Part.part_mem_places {part which : Part} {value found : Toml.Value} :
    (Place.part which, found) ∈ part.places value ↔
      which = part ∧ found = value ∧ ∀ entries, value ≠ .table entries := by
  cases value with
  | table entries => simp [Part.places]
  | _ => simp [Part.places]

section Stated

variable {entries : Entries} (distinct : (Toml.Value.table entries).Distinct)

include distinct

/-- What a place of the document holds is what some part of it holds. -/
lemma mem_places {place : Place} {found : Toml.Value} : (place, found) ∈ places entries ↔
    ∃ part : Part, ∃ value, entries.lookup part.name = some value ∧
      (place, found) ∈ part.places value := by
  unfold places
  rw [List.mem_flatMap]
  constructor
  · rintro ⟨⟨name, value⟩, among, inPart⟩
    dsimp only at inPart
    split at inPart
    · next part named =>
        rw [Part.named?_eq_some.1 named] at among
        exact ⟨part, value, (lookup_eq_some_iff_mem distinct.of_table.1).2 among, inPart⟩
    · cases inPart
  · rintro ⟨part, value, isPart, inPart⟩
    refine ⟨_, (lookup_eq_some_iff_mem distinct.of_table.1).1 isPart, ?_⟩
    rw [Part.named?_eq_some.2 rfl]
    exact inPart

/-- The entries of a part have distinct keys. -/
lemma apart_of_part {part : Part} {value : Toml.Value}
    (isPart : entries.lookup part.name = some value) :
    ((Part.entries value).map Prod.fst).Nodup := by
  have inside := distinct.of_lookup isPart
  cases value with
  | table entries => exact inside.of_table.1
  | _ => exact List.nodup_nil

/-- **The place of a setting holds what is stated for it.** -/
lemma key_mem_places {key : Key} {found : Toml.Value} :
    (Place.key key, found) ∈ places entries ↔ stated? entries key = some found := by
  unfold stated?
  rw [mem_places distinct, Option.bind_eq_some_iff]
  constructor
  · rintro ⟨part, value, isPart, inPart⟩
    obtain ⟨rfl, among⟩ := Part.key_mem_places.1 inPart
    exact ⟨value, isPart, (lookup_eq_some_iff_mem (apart_of_part distinct isPart)).2 among⟩
  · rintro ⟨value, isPart, isKey⟩
    have among := (lookup_eq_some_iff_mem (apart_of_part distinct isPart)).1 isKey
    exact ⟨key.part, value, isPart, Part.key_mem_places.2 ⟨rfl, among⟩⟩

/-- **A document fits if all its places hold what fits there.** -/
lemma fits_iff : Fits entries ↔ ∀ entry ∈ places entries, entry.1.Takes entry.2 := by
  constructor
  · rintro fits ⟨place, value⟩ among
    cases place with
    | part which =>
        obtain ⟨part, whole, isPart, inPart⟩ := (mem_places distinct).1 among
        obtain ⟨rfl, rfl, -⟩ := Part.part_mem_places.1 inPart
        exact fits.parts which value isPart
    | key setting => exact fits.keys setting value ((key_mem_places distinct).1 among)
  · intro takes
    refine ⟨fun part value isPart => ?_, fun key value isKey => ?_⟩
    · by_cases isTable : ∃ inside, value = .table inside
      · obtain ⟨inside, rfl⟩ := isTable
        trivial
      · refine takes (.part part, value) ((mem_places distinct).2 ⟨part, value, isPart, ?_⟩)
        exact Part.part_mem_places.2 ⟨rfl, rfl, fun inside same => isTable ⟨inside, same⟩⟩
    · exact takes (.key key, value) ((key_mem_places distinct).2 isKey)

/-- The last place of a setting holds what is stated for it. -/
lemma lookup_places (key : Key) :
    (places entries).reverse.lookup (.key key) = stated? entries key := by
  rw [Option.ext_iff]
  intro value
  rw [← key_mem_places distinct, ← List.mem_reverse]
  refine ⟨fun found => ?_, fun among => ?_⟩
  · obtain ⟨before, after, split, -⟩ := List.lookup_eq_some_iff.1 found
    rw [split]
    exact List.mem_append_right _ List.mem_cons_self
  · rcases found : (places entries).reverse.lookup (.key key) with _ | other
    · exact absurd rfl (bne_iff_ne.1 (List.lookup_eq_none_iff.1 found _ among))
    · obtain ⟨before, after, split, -⟩ := List.lookup_eq_some_iff.1 found
      have otherAmong : (Place.key key, other) ∈ (places entries).reverse := by
        rw [split]
        exact List.mem_append_right _ List.mem_cons_self
      rw [List.mem_reverse, key_mem_places distinct] at among otherAmong
      exact found.trans (otherAmong.symm.trans among)

end Stated

/-! ## Keys that are not known, and the order of keys -/

/-- Whether entries are these with one key more that is not known, at the top or in a part. -/
inductive Adds : Entries → Entries → Prop
  | atTop (before after : Entries) (name : String) (value : Toml.Value)
      (unknown : ∀ part : Part, name ≠ part.name) :
      Adds (before ++ after) (before ++ (name, value) :: after)
  | inPart (before after front back : Entries) (part : Part) (name : String) (value : Toml.Value)
      (unknown : ∀ key : Key, key.part = part → name ≠ key.name) :
      Adds (before ++ (part.name, .table (front ++ back)) :: after)
        (before ++ (part.name, .table (front ++ (name, value) :: back)) :: after)

/-- **A key that is not known adds no place.** -/
lemma Adds.places_eq {entries others : Entries} (adds : Adds entries others) :
    places others = places entries := by
  unfold places
  cases adds with
  | atTop before after name value unknown =>
      rw [List.flatMap_append, List.flatMap_append, List.flatMap_cons,
        Part.named?_eq_none.2 unknown]
      rfl
  | inPart before after front back part name value unknown =>
      rw [List.flatMap_append, List.flatMap_append, List.flatMap_cons, List.flatMap_cons,
        Part.named?_eq_some.2 rfl]
      dsimp only [Part.places]
      rw [List.filterMap_append, List.filterMap_append, List.filterMap_cons,
        Part.key?_eq_none.2 unknown]
      rfl

open Toml.Value (Rearranges)

section Rearranges

variable {entries others : Entries}

/-- **What is stated for a setting is stated in any order of the keys**, with its own keys in any
order. -/
lemma stated?_of_rearranges (rearranges : Rearranges (.table entries) (.table others))
    (distinct : (Toml.Value.table entries).Distinct) (key : Key) :
    Rearranges.Alike (stated? entries key) (stated? others key) := by
  have outer := rearranges.lookup distinct key.part.name
  unfold stated?
  rcases isPart : entries.lookup key.part.name with _ | value <;>
    rcases isOther : others.lookup key.part.name with _ | other <;> rw [isPart, isOther] at outer
  · trivial
  · cases outer
  · cases outer
  · have inside : Rearranges value other := outer
    show Rearranges.Alike ((Part.entries value).lookup key.name)
      ((Part.entries other).lookup key.name)
    rcases inside.eq_or with rfl | ⟨keyed, shuffled, rfl, rfl⟩ | ⟨items, shuffled, rfl, rfl⟩
    · exact Rearranges.alike_refl _
    · exact inside.lookup (distinct.of_lookup isPart) key.name
    · trivial

/-- A value that fits a setting holds no table, so it stays as it is. -/
lemma Key.Takes.eq_of_rearranges {key : Key} {value other : Toml.Value} (takes : key.Takes value)
    (rearranges : Rearranges value other) : value = other := by
  rcases rearranges.eq_or with same | ⟨_, _, rfl, -⟩ | ⟨_, _, rfl, -⟩
  · exact same
  · cases key <;> cases takes
  · cases key <;> cases takes

/-- A value that can be a part stays one. -/
lemma Part.Takes.of_rearranges {value other : Toml.Value} (takes : Part.Takes value)
    (rearranges : Rearranges value other) : Part.Takes other := by
  rcases rearranges.eq_or with rfl | ⟨_, _, -, rfl⟩ | ⟨_, _, rfl, -⟩
  · exact takes
  · trivial
  · cases takes

/-- What is stated for a setting and fits is stated in any order. -/
lemma Fits.stated?_of_rearranges (fits : Fits entries)
    (rearranges : Rearranges (.table entries) (.table others))
    (distinct : (Toml.Value.table entries).Distinct) (key : Key) :
    stated? others key = stated? entries key := by
  have alike := Settings.stated?_of_rearranges rearranges distinct key
  rcases isKey : stated? entries key with _ | value <;>
    rcases isOther : stated? others key with _ | other <;> rw [isKey, isOther] at alike
  · cases alike
  · cases alike
  · have inside : Rearranges value other := alike
    rw [(fits.keys key value isKey).eq_of_rearranges inside]

/-- **A document that fits does so in any order of its keys.** -/
lemma Fits.of_rearranges (fits : Fits entries)
    (rearranges : Rearranges (.table entries) (.table others))
    (distinct : (Toml.Value.table entries).Distinct) : Fits others where
  parts part other isOther := by
    have alike := rearranges.lookup distinct part.name
    rcases isPart : entries.lookup part.name with _ | value <;> rw [isPart, isOther] at alike
    · cases alike
    · have inside : Rearranges value other := alike
      exact (fits.parts part value isPart).of_rearranges inside
  keys key value isKey := by
    rw [fits.stated?_of_rearranges rearranges distinct] at isKey
    exact fits.keys key value isKey

end Rearranges

/-! ## Loading -/

/-- What a document with this table decides about the settings of a file. -/
structure Decides (path : String) (entries : Entries) (outcome : Except LoadError Settings) :
    Prop where
  /-- Settings are loaded if everything that is stated fits, and only then. -/
  succeeds_iff : (∃ settings, outcome = .ok settings) ↔ Fits entries
  /-- Every setting is the one that is stated, or built in if none is. -/
  chooses : ∀ settings, outcome = .ok settings → ∀ key : Key,
    key.value settings = (stated? entries key).getD (key.value builtIn)
  /-- Otherwise the first place that does not fit is reported, with a message about it. -/
  reports : ∀ error, outcome = .error error → ∃ before place value after cause,
    places entries = before ++ (place, value) :: after ∧
    (∀ entry ∈ before, entry.1.Takes entry.2) ∧ ¬ place.Takes value ∧
    error = .unfit path cause ∧ cause.message = place.complaint value

/-- Whether no part of a document is an array. -/
def HasNoArray (entries : Entries) : Prop :=
  ∀ (part : Part) (items : List Toml.Value), entries.lookup part.name ≠ some (.array items)

/-- A document that fits has no array for a part. -/
lemma Fits.hasNoArray {entries : Entries} (fits : Fits entries) : HasNoArray entries :=
  fun part items isPart => fits.parts part (.array items) isPart

/-- A key that is not known is no array for a part. -/
lemma Adds.hasNoArray {entries others : Entries} (adds : Adds entries others)
    (noArray : HasNoArray entries) : HasNoArray others := by
  intro part items isPart
  refine noArray part items ?_
  cases adds with
  | atTop before after name value unknown =>
      rw [List.lookup_append, List.lookup_cons, beq_false_of_ne (unknown part).symm] at isPart
      rwa [List.lookup_append]
  | inPart before after front back which name value unknown =>
      rw [List.lookup_append] at isPart ⊢
      generalize before.lookup part.name = early at isPart ⊢
      rcases early with _ | earlier
      · rw [Option.none_or, List.lookup_cons] at isPart ⊢
        split at isPart
        · cases isPart
        · exact isPart
      · exact isPart

/-- Keys that are not known add no place, however many they are. -/
lemma places_of_adds {entries others : Entries} (adds : Relation.ReflTransGen Adds entries others)
    (noArray : HasNoArray entries) : HasNoArray others ∧ places others = places entries := by
  induction adds with
  | refl => exact ⟨noArray, rfl⟩
  | tail _ adds ih => exact ⟨adds.hasNoArray ih.1, adds.places_eq.trans ih.2⟩

section Loading

variable {files : Files} {path document : String} {entries : Entries}

/-- A file with a well-formed document chooses what its places hold. -/
lemma load_eq_takeAll (stored : files.read (.ofText path) = .ok (.bytes (Utf8.encode document)))
    (isTree : parse? document = some entries) (noArray : HasNoArray entries) :
    load files path =
      match builtIn.takeAll (places entries) with
      | .error cause => .error (.unfit path cause)
      | .ok settings => .ok settings := by
  have apart := (distinct_of_parse? isTree).of_table.1
  have taken := ofEntries_eq_takeAll apart fun part items among =>
    noArray part items ((lookup_eq_some_iff_mem apart).2 among)
  rw [load_of_stored stored, ← taken]
  unfold ofText
  rcases decided : ofEntries entries with cause | settings <;> simp only [isTree, decided]

/-- **What a well-formed document decides.** -/
lemma decides_of_parse?
    (stored : files.read (.ofText path) = .ok (.bytes (Utf8.encode document)))
    (isTree : parse? document = some entries) (noArray : HasNoArray entries) :
    Decides path entries (load files path) := by
  have distinct := distinct_of_parse? isTree
  rw [load_eq_takeAll stored isTree noArray]
  rcases all_take_or (places entries) with
    takes | ⟨before, place, value, after, split, takes, misfit⟩
  · obtain ⟨next, taken, chosen⟩ := takeAll_of_takes builtIn takes
    rw [taken]
    refine ⟨iff_of_true ⟨next, rfl⟩ ((fits_iff distinct).2 takes), ?_, nofun⟩
    rintro settings loaded key
    cases loaded
    rw [chosen, lookup_places distinct]
  · obtain ⟨cause, refused, message⟩ := takeAll_of_misfit builtIn after takes misfit
    rw [split, refused]
    refine ⟨iff_of_false nofun fun fits => ?_, nofun, ?_⟩
    · have all := (fits_iff distinct).1 fits
      rw [split] at all
      exact misfit (all (place, value) (List.mem_append_right _ List.mem_cons_self))
    · rintro error refused
      cases refused
      exact ⟨before, place, value, after, cause, split, takes, misfit, rfl, message⟩

/-- Two settings with the same values are the same. -/
lemma ext_value {settings others : Settings}
    (same : ∀ key : Key, key.value settings = key.value others) : settings = others := by
  have bindAddress := Toml.Value.text.inj (same .bindAddress)
  have port := Int.ofNat.inj (Toml.Value.integer.inj (same .port))
  have backend := Toml.Value.text.inj (same .backend)
  have file := Toml.Value.text.inj (same .path)
  have maxConnections := Int.ofNat.inj (Toml.Value.integer.inj (same .maxConnections))
  have enableWal := Toml.Value.boolean.inj (same .enableWal)
  obtain ⟨⟨_, _⟩, ⟨_, _, _, _⟩⟩ := settings
  obtain ⟨⟨_, _⟩, ⟨_, _, _, _⟩⟩ := others
  dsimp only at bindAddress port backend file maxConnections enableWal
  rw [bindAddress, UInt16.toNat_inj.1 port, backend, file, UInt32.toNat_inj.1 maxConnections,
    enableWal]

/-- **A well-formed document decides the settings of its file.** Settings are loaded from it if
each part that it has is a table and each known setting that it states has a value that fits; they
are the stated ones, and otherwise the built-in ones. If not, the first place that does not fit is
reported. A document with more keys that are not known gives the same settings or the same error,
and a document with the same keys in another order gives the same settings. -/
theorem load_decides
    (stored : files.read (.ofText path) = .ok (.bytes (Utf8.encode document)))
    (isTree : parse? document = some entries) (noArray : HasNoArray entries) :
    Decides path entries (load files path) ∧
    ∀ (otherFiles : Files) (otherDocument : String) (others : Entries),
      otherFiles.read (.ofText path) = .ok (.bytes (Utf8.encode otherDocument)) →
      parse? otherDocument = some others →
        (Relation.ReflTransGen Adds entries others → load otherFiles path = load files path) ∧
        (Rearranges (.table entries) (.table others) →
          ∀ settings, load files path = .ok settings → load otherFiles path = .ok settings) := by
  have decides := decides_of_parse? stored isTree noArray
  have distinct := distinct_of_parse? isTree
  refine ⟨decides, fun otherFiles otherDocument others otherStored otherTree =>
    ⟨fun adds => ?_, fun rearranges settings loaded => ?_⟩⟩
  · obtain ⟨otherNoArray, same⟩ := places_of_adds adds noArray
    rw [load_eq_takeAll stored isTree noArray, load_eq_takeAll otherStored otherTree otherNoArray,
      same]
  · have fits := decides.succeeds_iff.1 ⟨settings, loaded⟩
    have otherFits := fits.of_rearranges rearranges distinct
    have otherDecides := decides_of_parse? otherStored otherTree otherFits.hasNoArray
    obtain ⟨otherSettings, otherLoaded⟩ := otherDecides.succeeds_iff.2 otherFits
    rw [otherLoaded]
    refine congrArg Except.ok (ext_value fun key => ?_)
    rw [otherDecides.chooses otherSettings otherLoaded, decides.chooses settings loaded,
      fits.stated?_of_rearranges rearranges distinct]

end Loading

/-- A document with a port out of range and a key that is not known. -/
def widePortDocument : String :=
  String.ofList <|
    writtenHeader "server" ++ writtenLine "log" (writtenBool true)
      ++ writtenLine "port" (writtenNat 70000)

/-- A file with that document. -/
def widePortFiles : Files :=
  (Files.fresh []).set [[0x61]] (.file (.bytes (Utf8.encode widePortDocument)))

/-- The port is reported, although the other key stands in front of it. -/
theorem load_widePort : ∃ cause, load widePortFiles "a" = .error (.unfit "a" cause) ∧
    cause.message = (Place.key .port).complaint (.integer (70000 : Nat)) := by
  have lines : SpellsLines [(["log"], .boolean true), (["port"], .integer (70000 : Nat))]
      (writtenLine "log" (writtenBool true) ++ (writtenLine "port" (writtenNat 70000) ++ [])) :=
    spellsLines_writtenLine (by decide) (.scalar (.boolean true)) <|
      spellsLines_writtenLine (Key.isBare_name .port) (.scalar (.integer (by decide))) .nil
  have spells : SpellsDocument []
      [⟨false, ["server"], [(["log"], .boolean true), (["port"], .integer (70000 : Nat))]⟩]
      widePortDocument.toList := by
    have part := spellsSection_writtenHeader (Part.isBare_name .server) lines
    refine ⟨[], _, .nil, .cons part .nil, ?_⟩
    unfold widePortDocument
    rw [String.toList_ofList]
    simp [Part.name]
  have isTree : parse? widePortDocument = some
      [("server", .table [("log", .boolean true), ("port", .integer (70000 : Nat))])] := by
    rw [Toml.parse?_of_spells spells]
    rfl
  obtain ⟨decides, -⟩ := load_decides
    (rfl : widePortFiles.read (.ofText "a") = .ok (.bytes (Utf8.encode widePortDocument))) isTree
    fun part items found => by cases part <;> cases found
  have tooLarge : ¬ Key.port.Takes (.integer (70000 : Nat)) := fun takes =>
    absurd takes.2 (by decide)
  rcases loaded : load widePortFiles "a" with error | settings
  · obtain ⟨before, place, value, after, cause, split, -, -, rfl, message⟩ :=
      decides.reports error loaded
    refine ⟨cause, rfl, ?_⟩
    cases before with
    | nil =>
        cases split
        exact message
    | cons _ before =>
        have noMore := (List.cons.inj split).2.symm
        exact absurd noMore (List.append_ne_nil_of_right_ne_nil _ (List.cons_ne_nil _ _))
  · have fits := decides.succeeds_iff.1 ⟨settings, loaded⟩
    exact absurd (fits.keys .port _ rfl) tooLarge

end AppCatalog.Settings
