import AppCatalog.Proofs.Files.Keeping
import AppCatalog.Proofs.Files.Ways

/-!
# Sessions that keep to their own files

Whatever a command does on a database file, and wherever it stops, it touches the file and its three
companions only, and a file that is no database keeps its content. There is one exception to either:
a journal that was left behind may tell of a change to take back, and may name a list of journals,
which goes with it.

* **Own places** (`DatabaseFile.IsOwn`) are those of the file and its companions; a list of journals
  (`DatabaseFile.IsList`) is named by a journal.
* **A foreign file** (`DatabaseFile.Foreign`) is no database, and nothing beside it is taken over.
* **A confined file system** (`DatabaseFile.Confined`) differs from an earlier one by no more than
  this. Each change that a session makes confines it.
* **A session stays confined** (`DatabaseFile.Stays`) under every act: settling what was left behind,
  commands (`Stays.perform`), turning to a log (`Stays.startLogging`), and closing
  (`Stays.close`).
-/

namespace AppCatalog

variable {α β : Type}

/-! ## Acts -/

namespace Session

variable {session : Session} {P : Session → Prop}

/-- What holds after both parts of an act: it holds after the first, and is kept by the second. -/
lemma after_bind {first : Act α} {second : α → Act β} (before : P (first.runIn session).2)
    (later : ∀ answer session', first.runIn session = (.ok answer, session') → P session' →
      P ((second answer).runIn session').2) :
    P ((first >>= second).runIn session).2 := by
  rw [runIn_bind]
  rcases outcome : first.runIn session with ⟨cause | answer, session'⟩ <;> rw [outcome] at before
  · exact before
  · exact later answer session' outcome before

/-- What holds after taking a result and going on. -/
lemma after_take_bind {result : Except SqlError α} {next : α → Act β} (holds : P session)
    (later : ∀ answer, result = .ok answer → P ((next answer).runIn session).2) :
    P ((take result >>= next).runIn session).2 := by
  cases result with
  | error cause => exact holds
  | ok answer => exact later answer rfl

end Session

/-! ## Images -/

namespace Image

/-- Whether work on an image spares what is no database. -/
def Act.Spares (act : Act α) : Prop :=
  ∀ image, (∃ cause, Layout.ofHeader image.data = .error cause) → image.changed = false →
    (act.runOn image).2.changed = false

/-- Work that looks at its image goes on with it. -/
lemma runOn_get_bind (next : Image → Act α) (image : Image) :
    ((get : Act Image) >>= next).runOn image = (next image).runOn image := rfl

/-- A statement on what is no database is refused, and changes nothing. -/
lemma runOn_run {image : Image} {cause : SqlError}
    (illFormed : Layout.ofHeader image.data = .error cause) (sketch : Sketch α) :
    (run sketch).runOn image = (.error (.refused cause), image) := by
  have noVolume : Volume.ofBlock image.data image.writable = .error cause := by
    unfold Volume.ofBlock
    rw [illFormed]
    rfl
  show ((get : Act Image) >>= _).runOn image = _
  rw [runOn_get_bind, noVolume]
  rfl

/-- A statement spares what is no database. -/
lemma spares_run (sketch : Sketch α) : (run sketch).Spares := by
  rintro image ⟨cause, illFormed⟩ unchanged
  rw [runOn_run illFormed]
  exact unchanged

/-- Work that is cut off at its start changes nothing more. -/
lemma runOn_bind_of_error {first : Act α} {second : α → Act β} {image image' : Image}
    {cause : StoreError} (refused : first.runOn image = (.error cause, image')) :
    (first >>= second).runOn image = (.error cause, image') := by
  have refused : first image = (.error cause, image') := refused
  show (ExceptT.run (first >>= second)) image = _
  simp only [ExceptT.run, bind, ExceptT.bind, ExceptT.mk, StateT.bind, refused]
  rfl

/-- Migrating spares what is no database. -/
lemma spares_migrate (now : Int) : (migrate now).Spares := by
  rintro image ⟨cause, illFormed⟩ unchanged
  unfold migrate
  rw [runOn_bind_of_error (runOn_run illFormed _)]
  exact unchanged

end Image

/-! ## Where names lead -/

namespace Files

variable {files files' : Files} {here place : Place} {names : List Name} {node? : Option Node}

/-- Names that can be walked lead where their texts say. -/
lemma eq_follow_of_walk (walked : files.walk here names = .ok (place, node?)) :
    place = Place.follow here names := by
  induction names generalizing here with
  | nil =>
      cases walked
      rfl
  | cons name names ih =>
      rw [walk] at walked
      unfold Place.follow
      by_cases stays : name = Path.here
      · rw [if_pos stays] at walked ⊢
        exact ih walked
      rw [if_neg stays] at walked ⊢
      by_cases goesUp : name = Path.up
      · rw [if_pos goesUp] at walked ⊢
        exact ih walked
      rw [if_neg goesUp] at walked ⊢
      by_cases long : nameTooLong name = true
      · rw [if_pos long] at walked
        cases walked
      rw [if_neg long] at walked
      dsimp only at walked
      rcases there : files.at? (here ++ [name]) with _ | _ | content <;> rw [there] at walked
      · dsimp only at walked
        split_ifs at walked with isLast
        cases walked
        rw [isLast]
        rfl
      · exact ih walked
      · dsimp only at walked
        split_ifs at walked with isLast
        cases walked
        rw [isLast]
        rfl

/-- No directory is where a file can be held. -/
lemma isDirectory_of_canHold (holds : files.canHold place = true) :
    files.isDirectory place = false := by
  unfold canHold at holds
  rw [Bool.and_eq_true, Bool.not_eq_true'] at holds
  rw [← Bool.not_eq_true']
  exact holds.2

/-- The place to which a path leads, as its text tells. -/
def target (files : Files) (path : Path) : Place :=
  Place.follow (files.start path) path.names

/-- A list of journals is where the text of its name tells. -/
lemma eq_target_of_listPlace? {name : Bytes}
    (found : DatabaseFile.listPlace? files name = some place) : place = files.target ⟨name⟩ := by
  unfold DatabaseFile.listPlace? at found
  split at found
  · next other node resolved =>
    split_ifs at found
    cases found
    unfold resolve at resolved
    split_ifs at resolved
    exact eq_follow_of_walk resolved
  · cases found

/-- The text tells the same place in the same working directory. -/
lemma target_congr (home_eq : files'.home = files.home) (path : Path) :
    files'.target path = files.target path := by
  unfold target start
  rw [home_eq]

end Files

namespace DatabaseFile

variable {file : DatabaseFile} {origin files files' : Files} {place : Place} {bytes : Bytes}

/-! ## What belongs to a file -/

/-- Whether a place is that of a file or of one of its companions. -/
def IsOwn (file : DatabaseFile) (place : Place) : Prop :=
  place = file.place ∨ place = file.journal ∨ place = file.log ∨ place = file.index

/-- Whether a place is that of the list of journals which a journal names that tells of a change to
take back. -/
def IsList (file : DatabaseFile) (files : Files) (place : Place) : Prop :=
  isHot files file.journal = true ∧
    ∃ name, Journal.listName? (bytesAt files file.journal).toArray = some name ∧
      place = files.target ⟨name⟩

/-- Whether a file holds bytes that are no database, and nothing that lies beside it is taken over:
no journal tells of a change to take back, and no log has anything ahead of the file. -/
structure Foreign (file : DatabaseFile) (files : Files) (bytes : Bytes) : Prop where
  holds : files.at? file.place = some (.file (.bytes bytes))
  /-- The file does not count as empty. -/
  counts : 1 < bytes.length
  illFormed : ∃ cause, Layout.ofHeader bytes.toArray = .error cause
  cold : isHot files file.journal = false
  level : ∀ data, Log.recover bytes.toArray (bytesAt files file.log).toArray = .ok data →
    data = bytes.toArray

/-- Whether a file system differs from an earlier one only in what belongs to a file. -/
structure Confined (file : DatabaseFile) (origin files : Files) : Prop where
  /-- Directories are all there, and no more than before. -/
  keeps : origin.Keeps files
  /-- Other places are as they were, but that a list of journals may be gone. -/
  elsewhere : ∀ place, ¬ file.IsOwn place →
    files.at? place = origin.at? place ∨ file.IsList origin place ∧ files.at? place = none
  /-- The journal is as it was, unless it is gone. -/
  journal : bytesAt files file.journal = bytesAt origin file.journal ∨
    bytesAt files file.journal = []
  /-- A foreign file stays as it was. -/
  foreign : ∀ bytes, file.Foreign origin bytes → file.Foreign files bytes

/-- A list of journals stays, or is a file that is removed. -/
lemma of_dropList {name : Bytes} {list : Place} (dropped : dropList files name list = .ok files') :
    files' = files ∨ files' = files.remove list ∧ files.isDirectory list = false := by
  unfold dropList at dropped
  split at dropped
  · cases dropped
  · cases dropped
  · next content there =>
    rcases used : (Journal.listed (bytesAt files list)).anyM (namesList files name) with
      cause | _ | _ <;> rw [used] at dropped <;> cases dropped
    · exact .inr ⟨rfl, Files.isDirectory_of_file there⟩
    · exact .inl rfl

namespace Confined

/-- A file system is confined to itself. -/
lemma refl (file : DatabaseFile) (files : Files) : file.Confined files files where
  keeps := .refl files
  elsewhere _ _ := .inl rfl
  journal := .inl rfl
  foreign _ := id

variable (confined : file.Confined origin files)

include confined

/-- **A companion is changed**: it becomes a directory no more and no less than before, and gets no
bytes that it did not have. -/
lemma companion (keeps : files.Keeps files') (isOwn : file.IsOwn place)
    (apart : place ≠ file.place)
    (others : ∀ other, other ≠ place → files'.at? other = files.at? other)
    (bytes_eq : bytesAt files' place = bytesAt files place ∨ bytesAt files' place = []) :
    file.Confined origin files' := by
  have bytes_eq_or (companion : Place) : bytesAt files' companion = bytesAt files companion ∨
      bytesAt files' companion = [] := by
    by_cases same : companion = place
    · rw [same]
      exact bytes_eq
    · left
      unfold bytesAt
      rw [others companion same]
  constructor
  · exact confined.keeps.trans keeps
  · intro other notOwn
    have notPlace : other ≠ place := by
      rintro rfl
      exact notOwn isOwn
    rw [others other notPlace]
    exact confined.elsewhere other notOwn
  · rcases bytes_eq_or file.journal with same | gone
    · rw [same]
      exact confined.journal
    · exact .inr gone
  · intro bytes isForeign
    obtain ⟨holds, counts, illFormed, cold, level⟩ := confined.foreign bytes isForeign
    refine ⟨(others _ (Ne.symm apart)).trans holds, counts, illFormed, ?_, ?_⟩
    · unfold isHot at cold ⊢
      rcases bytes_eq_or file.journal with same | gone
      · rw [same, cold]
      · rw [gone]
        rfl
    · rcases bytes_eq_or file.log with same | gone
      · rw [same]
        exact level
      · rw [gone]
        rintro data ⟨⟩
        rfl

/-- **The file gets other content**, unless it is foreign and keeps its own. -/
lemma set_place (free : origin.isDirectory file.place = false) {content : Content}
    (same : ∀ bytes, file.Foreign origin bytes → content = .bytes bytes) :
    file.Confined origin (files.set file.place (.file content)) := by
  have free : files.isDirectory file.place = false := (confined.keeps.isDirectory_eq _).trans free
  have bytes_eq {other : Place} (apart : other ≠ file.place) :
      bytesAt (files.set file.place (.file content)) other = bytesAt files other := by
    unfold bytesAt
    rw [Files.at?_set_of_ne _ apart]
  constructor
  · exact confined.keeps.trans (.set free content)
  · intro other notOwn
    rw [Files.at?_set_of_ne _ fun isPlace => notOwn (.inl isPlace)]
    exact confined.elsewhere other notOwn
  · rw [bytes_eq file.journal_ne_place]
    exact confined.journal
  · intro bytes isForeign
    obtain ⟨-, counts, illFormed, cold, level⟩ := confined.foreign bytes isForeign
    refine ⟨?_, counts, illFormed, ?_, ?_⟩
    · rw [same bytes isForeign]
      exact Files.at?_set_self _ (Files.ne_nil_of_isDirectory free) _
    · unfold isHot
      rw [bytes_eq file.journal_ne_place]
      exact cold
    · rw [bytes_eq file.log_ne_place]
      exact level

/-- **Bytes of the file are changed**, unless it is foreign and keeps its own. -/
lemma mapBytes (free : origin.isDirectory file.place = false) {f : Block → Block}
    (same : ∀ bytes, file.Foreign origin bytes → f bytes.toArray = bytes.toArray) :
    file.Confined origin (file.mapBytes f files) := by
  unfold DatabaseFile.mapBytes
  split
  · next bytes there =>
    refine confined.set_place free fun other isForeign => ?_
    cases there.symm.trans (confined.foreign other isForeign).holds
    rw [same bytes isForeign]
  · exact confined

/-- What is no directory is removed. -/
lemma remove (isOwn : file.IsOwn place) (apart : place ≠ file.place)
    (free : origin.isDirectory place = false) : file.Confined origin (files.remove place) := by
  have free : files.isDirectory place = false := (confined.keeps.isDirectory_eq _).trans free
  refine confined.companion (.remove free) isOwn apart
    (fun other apart => Files.at?_remove_of_ne _ apart) (.inr ?_)
  unfold bytesAt
  rw [Files.at?_remove_self _ (Files.ne_nil_of_isDirectory free)]

/-- The log is emptied. -/
lemma empty_log (free : origin.isDirectory file.log = false) :
    file.Confined origin (files.set file.log (.file (.bytes []))) := by
  have free : files.isDirectory file.log = false := (confined.keeps.isDirectory_eq _).trans free
  refine confined.companion (.set free _) (.inr (.inr (.inl rfl))) file.log_ne_place
    (fun other apart => Files.at?_set_of_ne _ apart _) (.inr ?_)
  unfold bytesAt
  rw [Files.at?_set_self _ file.log_ne_nil]

/-- A companion is made sure of. -/
lemma ensure (isOwn : file.IsOwn place) (apart : place ≠ file.place) :
    file.Confined origin (files.ensure place) := by
  refine confined.companion (.ensure files place) isOwn apart
    (fun other apart => Files.at?_ensure_of_ne apart) ?_
  unfold Files.ensure
  split_ifs with there
  · exact .inl rfl
  · right
    have below : place ≠ [] := by
      rintro rfl
      exact there rfl
    unfold bytesAt
    rw [Files.at?_set_self _ below]

/-- A journal that tells of a change to take back is the one from before. -/
lemma isHot_origin (hot : isHot files file.journal = true) :
    isHot origin file.journal = true ∧
      bytesAt files file.journal = bytesAt origin file.journal := by
  unfold isHot at hot ⊢
  rcases confined.journal with same | gone
  · rw [← same]
    exact ⟨hot, rfl⟩
  · rw [gone] at hot
    cases hot

/-- **A list of journals is removed.** -/
lemma remove_list (isList : file.IsList origin place) (free : files.isDirectory place = false) :
    file.Confined origin (files.remove place) := by
  constructor
  · exact confined.keeps.trans (.remove free)
  · intro other notOwn
    by_cases same : other = place
    · right
      rw [same]
      exact ⟨isList, Files.at?_remove_self _ (Files.ne_nil_of_isDirectory free)⟩
    · rw [Files.at?_remove_of_ne _ same]
      exact confined.elsewhere other notOwn
  · by_cases same : file.journal = place
    · right
      unfold bytesAt
      rw [same, Files.at?_remove_self _ (Files.ne_nil_of_isDirectory free)]
    · unfold bytesAt
      rw [Files.at?_remove_of_ne _ same]
      exact confined.journal
  · intro bytes isForeign
    cases isList.1.symm.trans isForeign.cold

end Confined

/-! ## Sessions -/

/-- Whether a session on a file stays confined to it. -/
structure Stays (file : DatabaseFile) (origin : Files) (session : Session) : Prop where
  confined : file.Confined origin session.files
  /-- No directory is in the place of a log that is open. -/
  opened : session.logOpen = true → origin.isDirectory file.log = false

namespace Stays

variable {session : Session}

/-- The file system of a session changes, and stays confined. -/
lemma change (stays : file.Stays origin session) {f : Files → Files}
    (confined : file.Confined origin (f session.files)) :
    file.Stays origin ((Session.change f).runIn session).2 :=
  ⟨confined, stays.opened⟩

/-- A session goes on to know something else of rows that changed. -/
lemma tally (stays : file.Stays origin session) (tally : Tally) :
    file.Stays origin { session with tally } :=
  ⟨stays.confined, stays.opened⟩

variable (stays : file.Stays origin session)

/-! ### Settling -/

include stays in
/-- **Deleting a journal** confines the session to the file, but for the list of the journal. -/
lemma dropJournal (isFile : origin.isDirectory file.journal = false)
    {list? : Option (Bytes × Option Place)}
    (isList : ∀ name list, list? = some (name, some list) → file.IsList origin list) :
    file.Stays origin ((file.dropJournal list?).runIn session).2 := by
  unfold DatabaseFile.dropJournal
  refine Session.after_bind (stays.change ?_) fun _ session' _ stays' => ?_
  · exact stays.confined.remove (.inr (.inl rfl)) file.journal_ne_place isFile
  · split
    · next name list =>
      rw [Session.runIn_get_bind]
      refine Session.after_take_bind stays' fun files dropped => stays'.change ?_
      rcases of_dropList dropped with rfl | ⟨rfl, free⟩
      · exact stays'.confined
      · exact stays'.confined.remove_list (isList name list rfl) free
    · exact stays'

section Place

variable (free : origin.isDirectory file.place = false)

include stays free

/-- **Taking a change back** confines the session to the file, but for the list of its journal. -/
lemma rollBack (hot : isHot session.files file.journal = true) :
    file.Stays origin (file.rollBack.runIn session).2 := by
  obtain ⟨hot', bytes_eq⟩ := stays.confined.isHot_origin hot
  have notForeign {bytes : Bytes} : ¬ file.Foreign origin bytes := fun isForeign => by
    cases hot'.symm.trans isForeign.cold
  have isFile : origin.isDirectory file.journal = false := by
    refine decide_eq_false fun isDirectory => ?_
    unfold isHot bytesAt at hot'
    rw [isDirectory] at hot'
    cases hot'
  have isList : ∀ name list, (Journal.listName? (bytesAt session.files file.journal).toArray).map
      (fun name => (name, listPlace? session.files name)) = some (name, some list) →
        file.IsList origin list := by
    intro name list found
    obtain ⟨name', named, same⟩ := Option.map_eq_some_iff.1 found
    obtain ⟨rfl, isThere⟩ := Prod.ext_iff.1 same
    refine ⟨hot', name', bytes_eq ▸ named, ?_⟩
    rw [Files.eq_target_of_listPlace? isThere, Files.target_congr stays.confined.keeps.home_eq]
  unfold DatabaseFile.rollBack
  rw [Session.runIn_get_bind]
  dsimp only
  split_ifs
  · exact stays.dropJournal isFile isList
  · refine Session.after_bind (stays.change ?_) fun _ session' _ stays' =>
      stays'.dropJournal isFile isList
    exact stays.confined.mapBytes free fun bytes isForeign => absurd isForeign notForeign

/-- **Settling a journal** keeps a session confined. -/
lemma settleJournal : file.Stays origin (file.settleJournal.runIn session).2 := by
  unfold DatabaseFile.settleJournal
  rw [Session.runIn_get_bind]
  dsimp only
  split_ifs with left empty deletes isDirectory hot readOnly
  · refine stays.change (stays.confined.remove (.inr (.inl rfl)) file.journal_ne_place ?_)
    rw [Bool.and_eq_true, Bool.not_eq_true'] at deletes
    exact (stays.confined.keeps.isDirectory_eq _).symm.trans deletes.2
  · exact stays
  · exact stays
  · exact stays
  · exact stays.rollBack free hot
  · exact stays
  · exact stays

/-- **Taking over what a log has ahead** keeps a session confined. -/
lemma recover (isOpen : session.logOpen = true) :
    file.Stays origin (file.recover.runIn session).2 := by
  unfold DatabaseFile.recover
  rw [Session.runIn_get_bind]
  dsimp only
  split_ifs
  · refine Session.after_take_bind stays fun data recovered => stays.change ?_
    refine (stays.confined.mapBytes free fun bytes isForeign => ?_).empty_log (stays.opened isOpen)
    have isForeign := stays.confined.foreign bytes isForeign
    have bytes_eq : bytesAt session.files file.place = bytes := by
      unfold bytesAt
      rw [isForeign.holds]
    rw [bytes_eq] at recovered
    exact isForeign.level data recovered
  · exact stays

/-- **Following a log** keeps a session confined. -/
lemma followLog : file.Stays origin (file.followLog.runIn session).2 := by
  unfold DatabaseFile.followLog
  rw [Session.runIn_get_bind]
  split_ifs with isOpen blocked
  · exact stays
  · exact stays.recover free isOpen
  · exact stays

end Place

include stays

/-- **Opening a log** keeps a session confined. -/
lemma openLog : file.Stays origin (file.openLog.runIn session).2 := by
  unfold DatabaseFile.openLog
  rw [Session.runIn_get_bind]
  dsimp only
  by_cases unsupported : file.use.logging = .unsupported
  · rw [if_pos unsupported]
    exact stays
  rw [if_neg unsupported]
  by_cases holds : session.files.canHold file.log = true
  · have free : origin.isDirectory file.log = false :=
      (stays.confined.keeps.isDirectory_eq _).symm.trans (Files.isDirectory_of_canHold holds)
    have opened {session' : Session} (stays' : file.Stays origin session') :
        file.Stays origin { session' with logOpen := true } := ⟨stays'.confined, fun _ => free⟩
    rw [if_pos holds]
    refine Session.after_bind (stays.change ?_) fun _ session' _ stays' => ?_
    · exact stays.confined.ensure (.inr (.inr (.inl rfl))) file.log_ne_place
    · split_ifs
      · refine Session.after_bind (stays'.change ?_) fun _ session'' _ stays'' => opened stays''
        exact stays'.confined.ensure (.inr (.inr (.inr rfl))) file.index_ne_place
      · exact opened stays'
  · rw [if_neg holds]
    exact stays

/-- **Settling a log** keeps a session confined. -/
lemma settleLog : file.Stays origin (file.settleLog.runIn session).2 := by
  unfold DatabaseFile.settleLog
  rw [Session.runIn_get_bind]
  dsimp only
  split_ifs with left empty isDirectory
  · exact stays.openLog
  · exact stays
  · refine stays.change (stays.confined.remove (.inr (.inr (.inl rfl))) file.log_ne_place ?_)
    rw [← stays.confined.keeps.isDirectory_eq]
    simpa using isDirectory
  · exact stays

/-! ### Beginning a command -/

section Place

variable (free : origin.isDirectory file.place = false)

include free

/-- **Looking at a file** keeps a session confined, and finds the bytes of a foreign one. -/
lemma look : file.Stays origin (file.look.runIn session).2 ∧
    ∀ holding session', file.look.runIn session = (.ok holding, session') →
      ∀ bytes, file.Foreign origin bytes → holding = .pages bytes.toArray := by
  unfold DatabaseFile.look
  constructor
  · refine Session.after_bind (stays.followLog free) fun _ session' _ stays' => ?_
    rw [Session.runIn_get_bind]
    refine Session.after_take_bind stays' fun holding _ => ?_
    refine Session.after_take_bind stays' fun logs _ => ?_
    rw [Session.runIn_get_bind]
    split_ifs
    · refine Session.after_bind stays'.openLog fun _ session'' _ stays'' => ?_
      exact Session.after_bind (stays''.followLog free) fun _ _ _ => id
    · exact stays'
  · intro holding session' looked bytes isForeign
    obtain ⟨_, between, followed, looked⟩ := Session.exists_of_runIn_bind looked
    have stays' := stays.followLog free
    rw [followed] at stays'
    have found : between.files.at? file.place = some (.file (.bytes bytes)) :=
      (stays'.confined.foreign bytes isForeign).holds
    have isPages : file.holding between.files = .ok (.pages bytes.toArray) := by
      unfold DatabaseFile.holding
      rw [found]
      dsimp only
      rw [if_neg (Nat.not_le.2 isForeign.counts)]
    rw [Session.runIn_get_bind, isPages, Session.runIn_take_bind] at looked
    obtain ⟨logs, between', -, looked⟩ := Session.exists_of_runIn_bind looked
    rw [Session.runIn_get_bind] at looked
    split_ifs at looked
    · obtain ⟨_, _, -, looked⟩ := Session.exists_of_runIn_bind looked
      obtain ⟨_, _, -, looked⟩ := Session.exists_of_runIn_bind looked
      cases looked
      rfl
    · cases looked
      rfl

/-- **Entering a file** keeps a session confined, and finds the bytes of a foreign one. -/
lemma enter : file.Stays origin (file.enter.runIn session).2 ∧
    ∀ holding session', file.enter.runIn session = (.ok holding, session') →
      ∀ bytes, file.Foreign origin bytes → holding = .pages bytes.toArray := by
  rw [runIn_enter]
  split_ifs
  · exact stays.look free
  · constructor
    · refine Session.after_bind (stays.settleJournal free) fun _ session' _ stays' => ?_
      exact Session.after_bind stays'.settleLog fun _ session'' _ stays'' => (stays''.look free).1
    · intro holding session' entered
      obtain ⟨_, between, settled, entered⟩ := Session.exists_of_runIn_bind entered
      have stays' := stays.settleJournal free
      rw [settled] at stays'
      obtain ⟨_, between', settled', looked⟩ := Session.exists_of_runIn_bind entered
      have stays'' := stays'.settleLog
      rw [settled'] at stays''
      exact (stays''.look free).2 holding session' looked

/-! ### Writing -/

/-- **Putting other content in the file** keeps a session confined. -/
lemma put (clear : file.obstacle? session = none) {content : Content}
    (same : ∀ bytes, file.Foreign origin bytes → content = .bytes bytes) :
    file.Stays origin ((file.put content).runIn session).2 := by
  have written := stays.confined.set_place free same
  refine ⟨?_, stays.opened⟩
  show file.Confined origin (file.stored session content).files
  unfold stored
  dsimp only
  split_ifs with isOpen
  · exact written
  · refine written.remove (.inr (.inl rfl)) file.journal_ne_place ?_
    rw [← stays.confined.keeps.isDirectory_eq]
    unfold obstacle? at clear
    split_ifs at clear with noObstacle
    rw [Bool.or_eq_true] at noObstacle
    exact Files.isDirectory_of_canHold (noObstacle.resolve_left isOpen)

/-- **Commands on tables** keep a session confined. -/
lemma performOnTables (notForeign : ∀ bytes, ¬ file.Foreign origin bytes) (command : Command α)
    (logs : Bool) (content : Database) :
    file.Stays origin ((file.performOnTables command logs content).runIn session).2 := by
  unfold DatabaseFile.performOnTables
  rw [Session.runIn_get_bind]
  refine Session.after_take_bind stays fun outcome _ => ?_
  obtain ⟨answer, after⟩ := outcome
  dsimp only
  split_ifs
  · rcases clear : file.obstacle? session with _ | cause
    · refine Session.after_bind (stays.put free clear fun bytes isForeign => ?_) fun _ _ _ => id
      exact absurd isForeign (notForeign bytes)
    · exact stays
  · exact stays

/-- **Work on pages** keeps a session confined, if it spares what is no database. -/
lemma onPages {act : Image.Act α} (spares : act.Spares) {data : Block}
    (found : ∀ bytes, file.Foreign origin bytes → data = bytes.toArray) :
    file.Stays origin ((file.onPages act data).runIn session).2 := by
  unfold DatabaseFile.onPages
  rw [Session.runIn_get_bind]
  have unchanged {bytes : Bytes} (isForeign : file.Foreign origin bytes) :=
    spares { data, writable := file.mayWrite session, obstacle? := file.obstacle? session
             tally := session.tally } (found bytes isForeign ▸ isForeign.illFormed) rfl
  generalize act.runOn _ = outcome at unchanged ⊢
  obtain ⟨result, image⟩ := outcome
  dsimp only
  refine Session.after_bind (stays.tally image.tally) fun _ session' modified stays' => ?_
  cases modified
  split_ifs with changed
  · rcases clear : file.obstacle? session with _ | cause
    · refine Session.after_bind (stays'.put free clear fun bytes isForeign => ?_)
        fun _ _ _ stays'' => ?_
      · cases changed.symm.trans (unchanged isForeign)
      · cases result <;> exact stays''
    · exact stays'
  · cases result <;> exact stays'

/-- **Commands** keep a session confined, if they spare what is no database. -/
lemma perform {command : Command α} (spares : command.onImage.Spares) :
    file.Stays origin ((file.perform command).runIn session).2 := by
  obtain ⟨entered, found⟩ := stays.enter free
  unfold DatabaseFile.perform
  refine Session.after_bind entered fun holding session' isFound stays' => ?_
  have found := found holding session' isFound
  cases holding with
  | tables logs content =>
      exact stays'.performOnTables free (fun bytes isForeign => nomatch found bytes isForeign)
        command logs content
  | pages data =>
      exact stays'.onPages free spares fun bytes isForeign =>
        Holding.pages.inj (found bytes isForeign)

/-- **Turning to a log** keeps a session confined. -/
lemma startLogging : file.Stays origin (file.startLogging.runIn session).2 := by
  obtain ⟨entered, found⟩ := stays.enter free
  unfold DatabaseFile.startLogging
  refine Session.after_bind entered fun holding session' isFound stays' => ?_
  have found := found holding session' isFound
  rw [Session.runIn_get_bind]
  cases holding with
  | tables logs content =>
      dsimp only
      by_cases isDone :
          (session'.logOpen || file.use.immutable || decide (file.use.logging = .unsupported)) = true
      · rw [if_pos isDone]
        exact stays'
      rw [if_neg isDone]
      by_cases writable : file.mayWrite session' = true
      · rw [if_pos writable]
        rcases clear : file.obstacle? session' with _ | cause
        · exact stays'.put free clear fun bytes isForeign => nomatch found bytes isForeign
        · exact stays'
      · rw [if_neg writable]
        exact stays'
  | pages data =>
      exact stays'.onPages free (Image.spares_run _) fun bytes isForeign =>
        Holding.pages.inj (found bytes isForeign)

end Place

/-- **Closing** confines the file system to the file. -/
lemma close : file.Confined origin (file.close session) := by
  unfold DatabaseFile.close
  dsimp only
  split_ifs with takesLog indexed
  · simp only [Bool.and_eq_true, Bool.not_eq_true'] at takesLog
    obtain ⟨⟨⟨isOpen, -⟩, free⟩, -⟩ := takesLog
    have without := stays.confined.remove (.inr (.inr (.inl rfl))) file.log_ne_place
      (stays.opened isOpen)
    refine without.remove (.inr (.inr (.inr rfl))) file.index_ne_place ?_
    unfold indexBlocked at free
    rw [decide_eq_true indexed, Bool.true_and] at free
    rw [← stays.confined.keeps.isDirectory_eq]
    exact free
  · simp only [Bool.and_eq_true, Bool.not_eq_true'] at takesLog
    exact stays.confined.remove (.inr (.inr (.inl rfl))) file.log_ne_place
      (stays.opened takesLog.1.1.1)
  · exact stays.confined

end Stays
end DatabaseFile
end AppCatalog
