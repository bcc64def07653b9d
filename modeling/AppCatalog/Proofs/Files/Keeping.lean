import AppCatalog.Proofs.Database.Session

/-!
# Directories that stay

A database is used without touching a directory: files are put, made sure of and removed, but never
in the place of a directory. So what led to the database once leads there again.

* **Directories are kept** (`Files.Keeps`) by putting a file where no directory is (`Keeps.set`), by
  removing what is no directory (`Keeps.remove`), and by making sure of a file (`Keeps.ensure`).
-/

namespace AppCatalog

namespace Files

variable {files files' files'' : Files} {place other : Place}

/-! ## What is at a place -/

/-- A place that is not occupied holds no directory. -/
lemma isDirectory_of_isOccupied (free : files.isOccupied place = false) :
    files.isDirectory place = false := by
  refine decide_eq_false fun there => ?_
  unfold isOccupied at free
  rw [there] at free
  cases free

/-- A place that holds a file holds no directory. -/
lemma isDirectory_of_file {content : Content} (there : files.at? place = some (.file content)) :
    files.isDirectory place = false := by
  refine decide_eq_false fun isDirectory => ?_
  rw [there] at isDirectory
  cases isDirectory

/-- The root is a directory. -/
lemma ne_nil_of_isDirectory (free : files.isDirectory place = false) : place ≠ [] := by
  rintro rfl
  exact of_decide_eq_false free rfl

/-- Making sure of a file changes no other place. -/
lemma at?_ensure_of_ne (apart : other ≠ place) :
    (files.ensure place).at? other = files.at? other := by
  unfold ensure
  split_ifs
  · rfl
  · exact at?_set_of_ne _ apart _

/-! ## Keeping directories -/

/-- Whether the working directory is the same, and so are all directories. -/
structure Keeps (files files' : Files) : Prop where
  home_eq : files'.home = files.home
  isDirectory_eq : ∀ place, files'.isDirectory place = files.isDirectory place

namespace Keeps

/-- Directories are kept where nothing changes. -/
lemma refl (files : Files) : files.Keeps files := ⟨rfl, fun _ => rfl⟩

/-- What is kept twice is kept. -/
lemma trans (first : files.Keeps files') (second : files'.Keeps files'') : files.Keeps files'' :=
  ⟨second.home_eq.trans first.home_eq, fun place =>
    (second.isDirectory_eq place).trans (first.isDirectory_eq place)⟩

/-- Putting a file where no directory is keeps directories. -/
lemma set (free : files.isDirectory place = false) (content : Content) :
    files.Keeps (files.set place (.file content)) := by
  refine ⟨rfl, fun other => ?_⟩
  by_cases same : other = place
  · rw [same, free]
    exact isDirectory_of_file (at?_set_self _ (ne_nil_of_isDirectory free) _)
  · exact isDirectory_congr (at?_set_of_ne _ same _)

/-- Removing what is no directory keeps directories. -/
lemma remove (free : files.isDirectory place = false) : files.Keeps (files.remove place) := by
  refine ⟨rfl, fun other => ?_⟩
  by_cases same : other = place
  · rw [same, free]
    exact isDirectory_of_at?_none (at?_remove_self _ (ne_nil_of_isDirectory free))
  · exact isDirectory_congr (at?_remove_of_ne _ same)

/-- Making sure of a file keeps directories. -/
lemma ensure (files : Files) (place : Place) : files.Keeps (files.ensure place) := by
  unfold Files.ensure
  split_ifs with there
  · exact refl files
  · refine set (decide_eq_false fun isDirectory => there ?_) _
    rw [isDirectory]
    rfl

/-- There is room for a file where there was. -/
lemma canHold_eq (keeps : files.Keeps files') (place : Place) :
    files'.canHold place = files.canHold place := by
  unfold canHold
  rw [keeps.isDirectory_eq]

/-- The index of a log is in the way where it was. -/
lemma indexBlocked_eq (keeps : files.Keeps files') (file : DatabaseFile) :
    file.indexBlocked files' = file.indexBlocked files := by
  unfold DatabaseFile.indexBlocked
  rw [keeps.isDirectory_eq]

end Keeps

end Files
end AppCatalog
