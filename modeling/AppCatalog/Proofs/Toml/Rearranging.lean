import Mathlib.Data.List.Perm.Basic
import AppCatalog.Proofs.Toml.Distinct

/-!
# Rearranged tables

Two values may hold the same and differ only in the order of the keys of their tables.

* **Rearranging** (`Value.Rearranges`) permutes the keys of a table, at any depth and any number of
  times.
* **A rearranged table has the same keys, with rearranged values** (`Value.Rearranges.lookup`), and
  what holds no table is not changed at all (`Value.Rearranges.eq_or`).
-/

namespace AppCatalog.Toml

/-! ## Entries with distinct keys -/

/-- **An entry of a table with distinct keys is found under its key**, and nothing else is. -/
lemma lookup_eq_some_iff_mem {entries : Entries} (apart : (entries.map Prod.fst).Nodup)
    {key : String} {value : Value} :
    entries.lookup key = some value ↔ (key, value) ∈ entries := by
  refine ⟨fun found => ?_, fun among => ?_⟩
  · obtain ⟨before, after, rfl, -⟩ := List.lookup_eq_some_iff.1 found
    exact List.mem_append_right _ List.mem_cons_self
  · obtain ⟨before, after, rfl⟩ := List.append_of_mem among
    refine List.lookup_eq_some_iff.2 ⟨before, after, rfl, fun other early => ?_⟩
    rw [List.map_append, List.map_cons, List.nodup_append] at apart
    rw [bne_iff_ne]
    exact (apart.2.2 other.1 (List.mem_map_of_mem early) key List.mem_cons_self).symm

/-- Nothing is found under a key that no entry has. -/
lemma lookup_eq_none_iff_notMem {entries : Entries} {key : String} :
    entries.lookup key = none ↔ key ∉ entries.map Prod.fst := by
  rw [List.lookup_eq_none_iff]
  refine ⟨fun apart among => ?_, fun notAmong entry among => ?_⟩
  · obtain ⟨entry, isEntry, rfl⟩ := List.mem_map.1 among
    exact bne_iff_ne.1 (apart entry isEntry) rfl
  · rw [bne_iff_ne]
    rintro rfl
    exact notAmong (List.mem_map_of_mem among)

namespace Value

/-- The entries of a table with distinct keys have distinct keys. -/
lemma Distinct.of_table {entries : Entries} (distinct : (Value.table entries).Distinct) :
    (entries.map Prod.fst).Nodup ∧ ∀ entry ∈ entries, entry.2.Distinct := by
  cases distinct with
  | table apart inside => exact ⟨apart, inside⟩

/-- What is found in a table with distinct keys has distinct keys. -/
lemma Distinct.of_lookup {entries : Entries} (distinct : (Value.table entries).Distinct)
    {key : String} {value : Value} (found : entries.lookup key = some value) : value.Distinct :=
  distinct.of_table.2 (key, value) ((lookup_eq_some_iff_mem distinct.of_table.1).1 found)

/-! ## Rearranging -/

/-- Whether a value becomes another one when the keys of tables are permuted. -/
inductive Rearranges : Value → Value → Prop
  | refl (value : Value) : Rearranges value value
  | permuted {entries others : Entries} (permuted : entries.Perm others) :
      Rearranges (.table entries) (.table others)
  | entry (before after : Entries) (key : String) {value other : Value}
      (inside : Rearranges value other) :
      Rearranges (.table (before ++ (key, value) :: after))
        (.table (before ++ (key, other) :: after))
  | item (before after : List Value) {value other : Value} (inside : Rearranges value other) :
      Rearranges (.array (before ++ value :: after)) (.array (before ++ other :: after))
  | trans {value next other : Value} (first : Rearranges value next)
      (second : Rearranges next other) : Rearranges value other

namespace Rearranges

variable {value other : Value} {entries others : Entries}

/-- **Only tables and arrays are rearranged**, into tables and arrays. -/
lemma eq_or (rearranges : Rearranges value other) :
    value = other ∨ (∃ entries others, value = .table entries ∧ other = .table others) ∨
      ∃ items others, value = .array items ∧ other = .array others := by
  induction rearranges with
  | refl value => exact .inl rfl
  | permuted permuted => exact .inr (.inl ⟨_, _, rfl, rfl⟩)
  | entry before after key inside ih => exact .inr (.inl ⟨_, _, rfl, rfl⟩)
  | item before after inside ih => exact .inr (.inr ⟨_, _, rfl, rfl⟩)
  | trans first second ihFirst ihSecond =>
      rcases ihFirst with rfl | ⟨entries, next, rfl, rfl⟩ | ⟨items, next, rfl, rfl⟩
      · exact ihSecond
      · rcases ihSecond with rfl | ⟨_, others, same, rfl⟩ | ⟨_, _, same, -⟩
        · exact .inr (.inl ⟨entries, next, rfl, rfl⟩)
        · exact .inr (.inl ⟨entries, others, rfl, rfl⟩)
        · cases same
      · rcases ihSecond with rfl | ⟨_, _, same, -⟩ | ⟨_, others, same, rfl⟩
        · exact .inr (.inr ⟨items, next, rfl, rfl⟩)
        · cases same
        · exact .inr (.inr ⟨items, others, rfl, rfl⟩)

/-- A table is rearranged into a table. -/
lemma exists_table (rearranges : Rearranges (.table entries) other) :
    ∃ others, other = .table others := by
  rcases rearranges.eq_or with rfl | ⟨_, others, -, rfl⟩ | ⟨_, _, same, -⟩
  · exact ⟨entries, rfl⟩
  · exact ⟨others, rfl⟩
  · cases same

/-- Rearranging keeps keys distinct. -/
lemma distinct (rearranges : Rearranges value other) (distinct : value.Distinct) :
    other.Distinct := by
  induction rearranges with
  | refl value => exact distinct
  | permuted permuted =>
      have parts := distinct.of_table
      exact .table ((permuted.map _).nodup_iff.1 parts.1)
        fun entry among => parts.2 entry (permuted.mem_iff.2 among)
  | @entry before after key value other inside ih =>
      obtain ⟨apart, sound⟩ := distinct.of_table
      rw [List.forall_mem_append, List.forall_mem_cons] at sound
      refine .table ?_ (List.forall_mem_append.2
        ⟨sound.1, List.forall_mem_cons.2 ⟨ih sound.2.1, sound.2.2⟩⟩)
      rwa [List.map_append, List.map_cons] at apart ⊢
  | item before after inside ih =>
      cases distinct with
      | array sound =>
          rw [List.forall_mem_append, List.forall_mem_cons] at sound
          exact .array (List.forall_mem_append.2
            ⟨sound.1, List.forall_mem_cons.2 ⟨ih sound.2.1, sound.2.2⟩⟩)
  | trans first second ihFirst ihSecond => exact ihSecond (ihFirst distinct)

/-- What two tables hold under a key: nothing, or a value and how it is rearranged. -/
def Alike : Option Value → Option Value → Prop
  | none, none => True
  | some value, some other => Rearranges value other
  | _, _ => False

/-- A table holds the same as itself. -/
lemma alike_refl : (found : Option Value) → Alike found found
  | none => trivial
  | some value => .refl value

/-- What is found in two tables is alike if it is like what is found in a third one. -/
lemma alike_trans : {first second third : Option Value} → Alike first second →
    Alike second third → Alike first third
  | none, none, none, _, _ => trivial
  | some _, some _, some _, before, after => .trans before after

/-- **A rearranged table has the same keys, with rearranged values.** -/
lemma lookup (rearranges : Rearranges (.table entries) (.table others))
    (distinct : (Value.table entries).Distinct) (key : String) :
    Alike (entries.lookup key) (others.lookup key) := by
  generalize isTable : Value.table entries = value at rearranges
  generalize isOther : Value.table others = other at rearranges
  induction rearranges generalizing entries others with
  | refl value =>
      cases isTable
      cases isOther
      exact alike_refl _
  | @permuted keyed shuffled permuted =>
      cases isTable
      cases isOther
      rcases found : keyed.lookup key with _ | value
      · rw [lookup_eq_none_iff_notMem, (permuted.map _).mem_iff] at found
        rw [lookup_eq_none_iff_notMem.2 found]
        trivial
      · have apart := distinct.of_table.1
        rw [lookup_eq_some_iff_mem apart, permuted.mem_iff] at found
        rw [(lookup_eq_some_iff_mem ((permuted.map _).nodup_iff.1 apart)).2 found]
        exact .refl value
  | entry before after name inside ih =>
      cases isTable
      cases isOther
      rw [List.lookup_append, List.lookup_append]
      rcases before.lookup key with _ | earlier
      · rw [Option.none_or, Option.none_or, List.lookup_cons, List.lookup_cons]
        split
        · exact inside
        · exact alike_refl _
      · exact .refl earlier
  | item before after inside ih => cases isTable
  | @trans value next other first second ihFirst ihSecond =>
      subst isTable isOther
      obtain ⟨middle, rfl⟩ := first.exists_table
      exact alike_trans (ihFirst distinct rfl rfl) (ihSecond (first.distinct distinct) rfl rfl)

end Rearranges
end Value
end AppCatalog.Toml
