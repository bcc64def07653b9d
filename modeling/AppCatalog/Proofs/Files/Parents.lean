import AppCatalog.Proofs.Files.Ways
import AppCatalog.Store.Opening

/-!
# The directories above a file

Before a database file is opened the directories above it are made. The path of these directories is
cut out of the path of the file by its bytes, and the file is found by following the names of its
own path. This file says that both lead the same way.

* **The parent of a path** (`Path.exists_of_parent?`) starts where the path starts, and leads the
  same way up to at most one last name.
* **What was made once** (`Files.makeParents_of_keeps`) need not be made again.
* **Directories are made above a file** exactly if the way to its parent is clear
  (`Files.exists_makeParents_iff`).
* **The place of the file** (`Files.databasePlace_of_keeps`) is found again once the directories
  above it were made, wherever directories were kept. All that is needed to open a file again is
  there (`Files.Leads`).
-/

namespace AppCatalog

/-! ## Segments of a path -/

namespace Path

variable {path parent : Path} {segment : Name}

/-- The slash at the start of an absolute path. -/
def root (path : Path) : Bytes :=
  if path.isAbsolute then [slash] else []

/-- What stands between the slashes of a path. -/
def segments (path : Path) : List Name :=
  (path.bytes.drop path.root.length).splitOn slash

/-- No segment has a slash in it. -/
lemma slash_notMem_of_mem_splitOn {bytes : Bytes} (among : segment ∈ bytes.splitOn slash) :
    slash ∉ segment := by
  induction bytes generalizing segment with
  | nil =>
      rw [List.splitOn_nil, List.mem_singleton] at among
      rw [among]
      exact List.not_mem_nil
  | cons byte bytes ih =>
      rw [List.splitOn_cons_eq_if_modifyHead] at among
      split_ifs at among with isSlash
      · rcases List.mem_cons.1 among with rfl | among
        · exact List.not_mem_nil
        · exact ih among
      · rcases split : bytes.splitOn slash with _ | ⟨first, others⟩
        · exact absurd split (List.splitOn_ne_nil _ _)
        · rw [split] at among ih
          rcases List.mem_cons.1 among with rfl | among
          · rw [List.mem_cons, not_or]
            exact ⟨fun same => isSlash (by simp [same]), ih List.mem_cons_self⟩
          · exact ih (List.mem_cons_of_mem _ among)

/-- Segments that are all idle lead nowhere. -/
lemma moves_eq_nil {segments : List Name}
    (idle : ∀ segment ∈ segments, isIdle segment = true) : moves segments = [] := by
  refine List.filter_eq_nil_iff.2 fun segment among => ?_
  rw [idle segment among]
  exact Bool.false_ne_true

/-- What is cut off behind the last segment that leads somewhere is idle. -/
lemma exists_upToLast (segments : List Name) :
    ∃ idle, segments = upToLast segments ++ idle ∧ ∀ segment ∈ idle, isIdle segment = true := by
  refine ⟨(segments.reverse.takeWhile isIdle).reverse, ?_, fun segment among => ?_⟩
  · unfold upToLast
    rw [← List.reverse_append, List.takeWhile_append_dropWhile, List.reverse_reverse]
  · exact List.all_eq_true.1 List.all_takeWhile segment (List.mem_reverse.1 among)

/-- The segments that count lead where all lead. -/
lemma moves_counting (absolute : Bool) (segments : List Name) :
    moves (counting absolute segments) = moves segments := by
  have cut : ∀ segments, moves (upToLast segments) = moves segments := by
    intro segments
    obtain ⟨idle, split, areIdle⟩ := exists_upToLast segments
    have lead := congrArg moves split
    rw [moves_append, moves_eq_nil areIdle, List.append_nil] at lead
    exact lead.symm
  unfold counting
  split
  · rw [moves_cons_of_idle isIdle_here, cut, moves_cons_of_idle rfl]
  · exact cut segments

/-- The segments that count begin as all begin. -/
lemma head?_counting {absolute : Bool} {segments : List Name}
    (isFirst : (counting absolute segments).head? = some segment) :
    segments.head? = some segment := by
  have cut : ∀ segments, (upToLast segments).head? = some segment →
      segments.head? = some segment := by
    intro segments isFirst
    obtain ⟨idle, split, -⟩ := exists_upToLast segments
    rw [split, List.head?_append, isFirst]
    rfl
  unfold counting at isFirst
  split at isFirst
  · exact isFirst
  · exact cut segments isFirst

/-- The last of the segments that count leads somewhere, if it is not the only one. -/
lemma dropLast_counting_or {absolute : Bool} {segments : List Name}
    (counts : counting absolute segments ≠ []) :
    (counting absolute segments).dropLast = [] ∨
      isIdle ((counting absolute segments).getLast counts) = false := by
  have leads : ∀ (segments : List Name) (full : upToLast segments ≠ []),
      isIdle ((upToLast segments).getLast full) = false := by
    intro segments full
    unfold upToLast at full ⊢
    rw [List.getLast_reverse]
    exact List.head_dropWhile_not isIdle (mt (congrArg List.reverse) full)
  revert counts
  unfold counting
  split
  · intro counts
    rename_i segments
    by_cases full : upToLast segments = []
    · left
      rw [full]
      rfl
    · right
      rw [List.getLast_cons full]
      exact leads segments full
  · exact fun counts => .inr (leads segments counts)

/-- Segments that count are segments, or stay in place. -/
lemma mem_of_mem_counting {absolute : Bool} {segments : List Name}
    (among : segment ∈ counting absolute segments) : segment ∈ segments := by
  have cut : ∀ segments, segment ∈ upToLast segments → segment ∈ segments := by
    intro segments among
    obtain ⟨idle, split, -⟩ := exists_upToLast segments
    rw [split]
    exact List.mem_append_left _ among
  unfold counting at among
  split at among
  · rcases List.mem_cons.1 among with rfl | among
    · exact List.mem_cons_self
    · exact List.mem_cons_of_mem _ (cut _ among)
  · exact cut segments among

/-! ## Names and parents -/

/-- The names of a path are its segments, apart from idle ones. -/
lemma moves_names (path : Path) : moves path.names = moves path.segments := by
  have kept : moves path.names = moves (path.bytes.splitOn slash) := by
    have filtered : moves ((path.bytes.splitOn slash).filter (!·.isEmpty)) =
        moves (path.bytes.splitOn slash) := by
      unfold moves
      rw [List.filter_filter]
      refine List.filter_congr fun name _ => ?_
      unfold isIdle
      rcases name with _ | ⟨byte, bytes⟩ <;> simp
    unfold names
    dsimp only
    split_ifs
    · rw [moves_append, moves_cons_of_idle isIdle_here, filtered]
      exact List.append_nil _
    · exact filtered
  rw [kept]
  unfold segments root
  by_cases absolute : path.isAbsolute = true
  · obtain ⟨bytes, split⟩ : ∃ bytes, path.bytes = slash :: bytes := by
      unfold isAbsolute at absolute
      exact List.head?_eq_some_iff.1 (of_decide_eq_true absolute)
    rw [if_pos absolute, split, List.splitOn_cons_eq_if_modifyHead, if_pos (BEq.refl _),
      moves_cons_of_idle rfl]
    rfl
  · rw [if_neg absolute]
    rfl

/-- No name of a path is empty. -/
lemma nil_notMem_names (path : Path) : [] ∉ path.names := by
  have full : [] ∉ (path.bytes.splitOn slash).filter (!·.isEmpty) := by
    intro among
    have := (List.mem_filter.1 among).2
    cases this
  unfold names
  dsimp only
  split_ifs
  · rw [List.mem_append, not_or]
    exact ⟨full, by decide⟩
  · exact full

/-- Segments that are put together with slashes are taken apart again, idle ones aside. -/
lemma moves_splitOn_intercalate {segments : List Name}
    (clear : ∀ segment ∈ segments, slash ∉ segment) :
    moves (([slash].intercalate segments).splitOn slash) = moves segments := by
  rcases segments with _ | ⟨first, others⟩
  · rfl
  · rw [List.splitOn_intercalate _ clear (List.cons_ne_nil _ _)]

/-- How the parent of a path is cut out of it. -/
lemma parent?_eq (path : Path) :
    path.parent? =
      if counting path.isAbsolute path.segments = [] then none
      else some ⟨path.root ++ [slash].intercalate
        (counting path.isAbsolute (counting path.isAbsolute path.segments).dropLast)⟩ := by
  unfold parent? segments root
  dsimp only
  split
  next empty => rw [if_pos empty]
  next full => rw [if_neg full]

/-- A path without a parent leads nowhere. -/
lemma moves_of_parent?_none (alone : path.parent? = none) : moves path.names = [] := by
  rw [parent?_eq] at alone
  split_ifs at alone with empty
  rw [moves_names, ← moves_counting path.isAbsolute, empty]
  rfl

/-- The first segment of a relative path is not empty, if there is another one that counts. -/
lemma ne_nil_of_head?_segments (relative : path.isAbsolute = false)
    (counts : counting path.isAbsolute path.segments ≠ [])
    (isFirst : path.segments.head? = some segment) : segment ≠ [] := by
  have segments_eq : path.segments = path.bytes.splitOn slash := by
    unfold segments root
    rw [relative]
    rfl
  rw [relative] at counts
  unfold isAbsolute at relative
  rw [segments_eq] at counts isFirst
  rcases bytes_eq : path.bytes with _ | ⟨byte, bytes⟩
  · rw [bytes_eq] at counts
    exact absurd rfl counts
  · rw [bytes_eq] at isFirst relative
    have notSlash : byte ≠ slash := by
      rintro rfl
      exact of_decide_eq_false relative rfl
    rw [List.splitOn_cons_eq_if_modifyHead, if_neg (by simpa using notSlash)] at isFirst
    rcases split : bytes.splitOn slash with _ | ⟨first, others⟩
    · exact absurd split (List.splitOn_ne_nil _ _)
    · rw [split] at isFirst
      cases isFirst
      exact List.cons_ne_nil _ _

/-- Segments put together behind the root start at the root if they did, and are taken apart
again. -/
lemma moves_names_of_root {absolute : Bool} {segments : List Name} {path : Path}
    (bytes_eq : path.bytes =
      (if absolute then [slash] else []) ++ [slash].intercalate segments)
    (clear : ∀ segment ∈ segments, slash ∉ segment)
    (full : absolute = false → ∀ segment, segments.head? = some segment → segment ≠ []) :
    path.isAbsolute = absolute ∧ moves path.names = moves segments := by
  have isAbsolute_eq : path.isAbsolute = absolute := by
    unfold isAbsolute
    rw [bytes_eq]
    rcases absolute with _ | _
    · refine decide_eq_false fun isSlash => ?_
      rcases segments with _ | ⟨first, others⟩
      · cases isSlash
      · have nonempty := full rfl first rfl
        have noSlash := clear first List.mem_cons_self
        rcases first with _ | ⟨byte, bytes⟩
        · exact nonempty rfl
        · have isSlash : some byte = some slash := by
            rcases others with _ | ⟨second, others⟩ <;> simpa using isSlash
          cases isSlash
          exact noSlash List.mem_cons_self
    · rfl
  refine ⟨isAbsolute_eq, ?_⟩
  rw [moves_names, ← moves_splitOn_intercalate clear]
  unfold Path.segments root
  rw [isAbsolute_eq, bytes_eq]
  rcases absolute with _ | _ <;> rfl

/-- **The parent of a path** starts where the path starts and leads the same way, up to at most one
last name. It leads nowhere if there is no such name. -/
lemma exists_of_parent? (found : path.parent? = some parent) :
    parent.isAbsolute = path.isAbsolute ∧
      ∃ last : List Name, last.length ≤ 1 ∧ (last = [] → moves parent.names = []) ∧
        moves path.names = moves parent.names ++ last := by
  rw [parent?_eq] at found
  split_ifs at found with empty
  have bytes_eq := (congrArg Path.bytes (Option.some.inj found)).symm
  have clear : ∀ segment ∈
      counting path.isAbsolute (counting path.isAbsolute path.segments).dropLast,
      slash ∉ segment := fun segment among =>
    slash_notMem_of_mem_splitOn (mem_of_mem_counting ((List.dropLast_subset _)
      (mem_of_mem_counting among)))
  have full : path.isAbsolute = false → ∀ segment,
      (counting path.isAbsolute (counting path.isAbsolute path.segments).dropLast).head? =
        some segment → segment ≠ [] := by
    intro relative segment isFirst
    obtain ⟨others, isFirst⟩ := List.head?_eq_some_iff.1 (head?_counting isFirst)
    have counted : (counting path.isAbsolute path.segments).head? = some segment := by
      rw [← List.dropLast_concat_getLast empty, isFirst]
      rfl
    exact ne_nil_of_head?_segments relative empty (head?_counting counted)
  obtain ⟨isAbsolute_eq, moves_eq⟩ := moves_names_of_root bytes_eq clear full
  refine ⟨isAbsolute_eq,
    moves [(counting path.isAbsolute path.segments).getLast empty], ?_, ?_, ?_⟩
  · exact List.length_filter_le _ _
  · intro alone
    rw [moves_eq, moves_counting]
    rcases dropLast_counting_or empty with none | leads
    · rw [none]
      rfl
    · rw [moves_cons_of_not_idle leads] at alone
      cases alone
  · rw [moves_eq, moves_counting, ← moves_append, List.dropLast_concat_getLast, moves_counting,
      moves_names]

end Path

/-! ## Leading to a file -/

namespace Files

variable {files files' : Files} {path : Path} {place : Place}

/-- Whether a path leads to the place of a database file, from a working directory that is there:
the directories above the file are all there, and so are those above the path under which the file
is known. -/
structure Leads (files : Files) (known path : Path) (place : Place) : Prop where
  home : files.Reached files.home
  known : files.makeParents known = (.ok (), files)
  parents : files.makeParents path = (.ok (), files)
  placed : files.databasePlace path = .ok place

/-- Where a path starts is reached. -/
lemma reached_start (home : files.Reached files.home) (path : Path) :
    files.Reached (files.start path) := by
  unfold start
  split_ifs
  · exact files.reached_nil
  · exact home

/-- A path starts where it started, if the working directory is the same. -/
lemma start_eq (home_eq : files'.home = files.home) (path : Path) :
    files'.start path = files.start path := by
  unfold start
  rw [home_eq]

/-- Paths that are both absolute or both relative start at the same place. -/
lemma start_congr {path path' : Path} (same : path.isAbsolute = path'.isAbsolute) :
    files.start path = files.start path' := by
  unfold start
  rw [same]

/-- Directories that were made had a path that can be followed. -/
lemma of_makeDirectories (made : files.makeDirectories path = (.ok (), files')) :
    0 ∉ path.bytes ∧ ¬ pathBytesLimit ≤ path.bytes.length ∧
      files.makeAlong false (files.start path) path.names = (.ok (), files') := by
  unfold makeDirectories at made
  split_ifs at made with nul long
  · cases made
  · cases made
  · exact ⟨nul, long, made⟩

/-- **Making the directories above a file** adds directories, and paves the way up to the last name
of its path. -/
lemma exists_of_makeParents (made : files.makeParents path = (.ok (), files')) :
    files'.home = files.home ∧
      (∀ place, files.isDirectory place = true → files'.isDirectory place = true) ∧
      ∃ above last : List Name, last.length ≤ 1 ∧ Path.moves path.names = above ++ last ∧
        [] ∉ above ∧ files'.Paved (files.start path) above := by
  unfold makeParents at made
  rcases found : path.parent? with _ | parent
  · rw [found] at made
    cases made
    exact ⟨rfl, fun _ => id, [], [], Nat.zero_le _, Path.moves_of_parent?_none found,
      List.not_mem_nil, trivial⟩
  · rw [found] at made
    obtain ⟨-, -, made⟩ := of_makeDirectories made
    obtain ⟨isAbsolute_eq, last, few, -, moves_eq⟩ := Path.exists_of_parent? found
    obtain ⟨home_eq, kept, paved⟩ := paved_of_makeAlong made
    have full : [] ∉ Path.moves parent.names := fun among =>
      parent.nil_notMem_names (List.mem_filter.1 among).1
    refine ⟨home_eq, kept, _, last, few, moves_eq, full, ?_⟩
    rw [paved_moves parent.nil_notMem_names, start_congr isAbsolute_eq.symm]
    exact paved

/-- **What was made once** need not be made again where directories were kept. -/
lemma makeParents_of_keeps (made : files.makeParents path = (.ok (), files'))
    {files'' : Files} (keeps : files'.Keeps files'') :
    files''.makeParents path = (.ok (), files'') := by
  unfold makeParents at made ⊢
  rcases found : path.parent? with _ | parent
  · rfl
  · rw [found] at made
    obtain ⟨nul, long, made⟩ := of_makeDirectories made
    obtain ⟨home_eq, -, paved⟩ := paved_of_makeAlong made
    dsimp only
    unfold makeDirectories
    rw [if_neg nul, if_neg long, start_eq (keeps.home_eq.trans home_eq)]
    exact makeAlong_of_paved (paved.of_keeps keeps) false

/-- A place is reached once directories were made, if it was before. -/
lemma Reached.of_makeParents (reached : files.Reached place)
    (made : files.makeParents path = (.ok (), files')) : files'.Reached place := by
  obtain ⟨-, kept, -⟩ := exists_of_makeParents made
  intro above name isPrefix
  obtain ⟨full, leaves, notUp, short, isDirectory⟩ := reached above name isPrefix
  exact ⟨full, leaves, notUp, short, kept _ isDirectory⟩

/-- The way to a place that is reached has no idle names. -/
lemma Reached.moves_eq (reached : files.Reached place) : Path.moves place = place := by
  refine List.filter_eq_self.2 fun name among => ?_
  obtain ⟨before, after, split⟩ := List.append_of_mem among
  obtain ⟨nonempty, leaves, -⟩ := reached before name ⟨after, by rw [split]; simp⟩
  rw [Path.isIdle_eq_false nonempty leaves]
  rfl

/-- The way to a place that is reached has no empty names. -/
lemma Reached.nil_notMem (reached : files.Reached place) : [] ∉ place := by
  intro among
  rw [← reached.moves_eq] at among
  cases (List.mem_filter.1 among).2

/-- **The place of a file** to which a path leads is found again wherever directories were kept. -/
lemma databasePlace_of_keeps (home : files.Reached files.home)
    (parents : files.makeParents path = (.ok (), files))
    (placed : files.databasePlace path = .ok place) (keeps : files.Keeps files') :
    files'.databasePlace path = .ok place := by
  obtain ⟨-, -, above, last, few, moves_eq, full, paved⟩ := exists_of_makeParents parents
  have reached := reached_start home path
  have noEmpty := reached.nil_notMem
  have full' : [] ∉ files.start path ++ path.names := by
    rw [List.mem_append, not_or]
    exact ⟨noEmpty, path.nil_notMem_names⟩
  have way : Path.moves (files.start path ++ path.names) = (files.start path ++ above) ++ last := by
    rw [Path.moves_append, reached.moves_eq, moves_eq, List.append_assoc]
  unfold databasePlace at placed ⊢
  rw [start_eq keeps.home_eq, ← follow_moves full', way]
  rw [← follow_moves full', way] at placed
  rcases followed : files.follow [] (files.start path ++ above ++ last) with cause | found
  · rw [followed] at placed
    cases placed
  · have followed' := follow_of_keeps keeps few
      (by rw [List.mem_append, not_or]; exact ⟨noEmpty, full⟩) files.reached_nil
      (Reached.paved_append (files.start path) reached paved) followed
    rw [followed']
    rw [followed] at placed
    exact placed

/-- **A path leads to its file** wherever directories were kept. -/
lemma Leads.of_keeps {known : Path} (leads : files.Leads known path place)
    (keeps : files.Keeps files') : files'.Leads known path place where
  home := by
    rw [keeps.home_eq]
    exact leads.home.of_keeps keeps
  known := makeParents_of_keeps leads.known keeps
  parents := makeParents_of_keeps leads.parents keeps
  placed := databasePlace_of_keeps leads.home leads.parents leads.placed keeps

end Files
end AppCatalog
