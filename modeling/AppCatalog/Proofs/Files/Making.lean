import AppCatalog.Proofs.Files.Parents

/-!
# Only directories are made

The directories above a file may be made all the way, or only until something is in the way. Either
way nothing that was there is touched, and all that is new are directories above the file.

* **Directories are added** (`Files.Adds`) where nothing was, and every other place stays as it was.
* **An ancestor** (`Files.IsAncestor`) of a path is where a proper prefix of its names leads.
* **Making the directories above a file** (`Files.adds_makeParents`) adds ancestors of its path.
-/

namespace AppCatalog

open AppCatalog.Path (moves)

namespace Files

variable {files files' files'' : Files} {path : Path} {here place : Place} {names : List Name}

/-- Whether a place is on a way: the names up to one that does not stay in place lead there. -/
def IsOnWay (here : Place) (names : List Name) (place : Place) : Prop :=
  ∃ before name after, names = before ++ name :: after ∧ name ≠ Path.here ∧
    place = Place.follow here (before ++ [name])

/-- A place on the way behind a step in place is on the whole way. -/
lemma IsOnWay.of_here (onWay : IsOnWay here names place) :
    IsOnWay here (Path.here :: names) place := by
  obtain ⟨before, name, after, rfl, leaves, rfl⟩ := onWay
  refine ⟨Path.here :: before, name, after, rfl, leaves, ?_⟩
  rw [List.cons_append, Place.follow, if_pos rfl]

/-- A place on the way behind a step up is on the whole way. -/
lemma IsOnWay.of_up (onWay : IsOnWay here.dropLast names place) :
    IsOnWay here (Path.up :: names) place := by
  obtain ⟨before, name, after, rfl, leaves, rfl⟩ := onWay
  refine ⟨Path.up :: before, name, after, rfl, leaves, ?_⟩
  rw [List.cons_append, Place.follow, if_neg (by decide), if_pos rfl]

section Name

variable {name : Name} (leaves : name ≠ Path.here) (notUp : name ≠ Path.up)

include leaves notUp

/-- A name leads to a place on the way. -/
lemma isOnWay_name : IsOnWay here (name :: names) (here ++ [name]) := by
  refine ⟨[], name, names, rfl, leaves, ?_⟩
  rw [List.nil_append, Place.follow, if_neg leaves, if_neg notUp]
  rfl

/-- A place on the way behind a name is on the whole way. -/
lemma IsOnWay.of_name (onWay : IsOnWay (here ++ [name]) names place) :
    IsOnWay here (name :: names) place := by
  obtain ⟨before, last, after, rfl, leaves', rfl⟩ := onWay
  refine ⟨name :: before, last, after, rfl, leaves', ?_⟩
  rw [List.cons_append, Place.follow, if_neg leaves, if_neg notUp]

end Name

/-- Whether every place is as it was, but for new directories at some places. -/
structure Adds (files files' : Files) (isNew : Place → Prop) : Prop where
  home_eq : files'.home = files.home
  at?_eq_or : ∀ place, files'.at? place = files.at? place ∨
    files.at? place = none ∧ files'.at? place = some .directory ∧ isNew place

namespace Adds

variable {isNew isNew' : Place → Prop}

/-- Nothing is added where nothing changes. -/
lemma refl (files : Files) : files.Adds files isNew := ⟨rfl, fun _ => .inl rfl⟩

/-- What is new at some places is new at more places. -/
lemma mono (adds : files.Adds files' isNew) (more : ∀ place, isNew place → isNew' place) :
    files.Adds files' isNew' where
  home_eq := adds.home_eq
  at?_eq_or place :=
    (adds.at?_eq_or place).imp_right fun ⟨nothing, made, new⟩ => ⟨nothing, made, more place new⟩

/-- A directory is added where nothing was, and others after it. -/
lemma set (nothing : files.at? place = none) (new : isNew place)
    (adds : (files.set place .directory).Adds files' isNew) : files.Adds files' isNew where
  home_eq := adds.home_eq
  at?_eq_or other := by
    have below : place ≠ [] := by
      rintro rfl
      cases nothing
    by_cases same : other = place
    · subst same
      rcases adds.at?_eq_or other with unchanged | ⟨isNone, -, -⟩
      · rw [at?_set_self _ below] at unchanged
        exact .inr ⟨nothing, unchanged, new⟩
      · rw [at?_set_self _ below] at isNone
        cases isNone
    · rw [← at?_set_of_ne files same .directory]
      exact adds.at?_eq_or other

/-- What was there stays. -/
lemma at?_eq_of_some (adds : files.Adds files' isNew) {node : Node}
    (there : files.at? place = some node) : files'.at? place = some node := by
  rcases adds.at?_eq_or place with unchanged | ⟨nothing, -, -⟩
  · rw [unchanged, there]
  · cases nothing.symm.trans there

/-- The bytes at a place stay. -/
lemma bytesAt_eq (adds : files.Adds files' isNew) (place : Place) :
    DatabaseFile.bytesAt files' place = DatabaseFile.bytesAt files place := by
  unfold DatabaseFile.bytesAt
  rcases adds.at?_eq_or place with unchanged | ⟨nothing, made, -⟩
  · rw [unchanged]
  · rw [nothing, made]

end Adds

/-- **Making directories along a way** adds directories on the way, whether it succeeds or not. -/
lemma adds_makeAlong (made : Bool) :
    files.Adds (files.makeAlong made here names).2 (IsOnWay here names) := by
  induction names generalizing files made here with
  | nil => exact .refl files
  | cons name names ih =>
      rw [makeAlong]
      by_cases stays : name = Path.here
      · rw [if_pos stays, stays]
        exact (ih made).mono fun _ => IsOnWay.of_here
      rw [if_neg stays]
      by_cases goesUp : name = Path.up
      · rw [if_pos goesUp, goesUp]
        exact (ih made).mono fun _ => IsOnWay.of_up
      rw [if_neg goesUp]
      by_cases long : nameTooLong name = true
      · rw [if_pos long]
        exact .refl files
      rw [if_neg long]
      dsimp only
      rcases there : files.at? (here ++ [name]) with _ | _ | content
      · exact .set there (isOnWay_name stays goesUp) ((ih true).mono fun _ => .of_name stays goesUp)
      · exact (ih made).mono fun _ => .of_name stays goesUp
      · exact .refl files

/-- Whether a place is an ancestor of what a path leads to: a proper prefix of the names of the path
leads there. -/
def IsAncestor (files : Files) (path : Path) (place : Place) : Prop :=
  ∃ above rest, moves path.names = above ++ rest ∧ rest ≠ [] ∧
    place = Place.follow (files.start path) above

/-- Idle names lead nowhere. -/
lemma follow_moves_eq (full : [] ∉ names) :
    Place.follow here (moves names) = Place.follow here names := by
  induction names generalizing here with
  | nil => rfl
  | cons name names ih =>
      rw [List.mem_cons, not_or] at full
      by_cases stays : name = Path.here
      · rw [stays, Path.moves_cons_of_idle Path.isIdle_here, ih full.2, Place.follow, if_pos rfl]
      · rw [Path.moves_cons_of_not_idle (Path.isIdle_eq_false (Ne.symm full.1) stays)]
        unfold Place.follow
        simp only [ih full.2]

/-- A place on the way to the parent of a path is an ancestor. -/
lemma IsOnWay.isAncestor {parent : Path} (found : path.parent? = some parent)
    (onWay : IsOnWay (files.start parent) parent.names place) : files.IsAncestor path place := by
  obtain ⟨isAbsolute_eq, last, -, alone, moves_eq⟩ := Path.exists_of_parent? found
  obtain ⟨before, name, after, names_eq, leaves, rfl⟩ := onWay
  have full : [] ∉ before ++ name :: after := by
    rw [← names_eq]
    exact parent.nil_notMem_names
  have counts : moves [name] = [name] :=
    Path.moves_cons_of_not_idle
      (Path.isIdle_eq_false (fun empty => full (by simp [empty])) leaves) []
  have split : moves parent.names = moves (before ++ [name]) ++ moves after := by
    rw [names_eq, ← Path.moves_append, List.append_assoc, List.singleton_append]
  refine ⟨moves (before ++ [name]), moves after ++ last, ?_, ?_, ?_⟩
  · rw [moves_eq, split, List.append_assoc]
  · intro nothing
    have none := alone (List.append_eq_nil_iff.1 nothing).2
    rw [split, Path.moves_append, counts] at none
    simp at none
  · rw [follow_moves_eq fun among => full ?_, start_congr isAbsolute_eq]
    rw [List.mem_append, List.mem_singleton] at among
    rw [List.mem_append, List.mem_cons]
    exact among.imp_right .inl

/-- **Making the directories above a file** adds ancestors of its path, whether it succeeds or
not. -/
lemma adds_makeParents (files : Files) (path : Path) :
    files.Adds (files.makeParents path).2 (files.IsAncestor path) := by
  unfold makeParents
  rcases found : path.parent? with _ | parent
  · exact .refl files
  · dsimp only
    unfold makeDirectories
    split_ifs
    · exact .refl files
    · exact .refl files
    · exact (adds_makeAlong false).mono fun place => IsOnWay.isAncestor found

end Files
end AppCatalog
