import Mathlib.Tactic.Lemma
import AppCatalog.Form

/-!
# Parameters that are joined

Parameters are read piece by piece, and no piece is read differently for what stands beside it. This
holds of all bytes, also where an escape or a character is cut off just before an ampersand.

* **Two parts** (`Params.parse_append`) with an ampersand between them hold the parameters of the
  first part followed by those of the second one.
* **One piece** (`Params.length_parse_le_one`) holds at most one parameter.
* **Many parts** (`Params.parse_intercalate`) may be joined and then read, or read one by one and
  then chained.
* **A lookup** (`Params.get?_eq_find?`, `Params.get?_chain_eq_find?`) takes the first parameter of
  its name.
-/

namespace AppCatalog

/-! ## Pieces -/

namespace Form

/-- The pieces of two parts with an ampersand between them are the pieces of either. -/
lemma pieces_append (first second : Bytes) :
    pieces (first ++ 0x26 :: second) = pieces first ++ pieces second := by
  unfold pieces
  rw [List.splitOn_append_cons_self, List.filter_append]

/-- No piece comes of an empty text. -/
@[simp] lemma pieces_nil : pieces [] = [] := by
  unfold pieces
  rw [List.splitOn_nil]
  rfl

/-- Bytes without an ampersand are a single piece, if there are any. -/
lemma pieces_of_notMem {bytes : Bytes} (single : 0x26 ∉ bytes) (notEmpty : bytes ≠ []) :
    pieces bytes = [bytes] := by
  unfold pieces
  rw [List.splitOn_eq_singleton single]
  simpa using notEmpty

end Form

namespace Params

/-! ## Chains -/

/-- No parameters before others. -/
@[simp] lemma empty_chain (params : Params) : empty.chain params = params := rfl

/-- No parameters behind others. -/
@[simp] lemma chain_empty (params : Params) : params.chain empty = params := by
  unfold chain empty
  rw [List.append_nil]

/-- It does not matter which parameters are chained first. -/
lemma chain_assoc (first second third : Params) :
    (first.chain second).chain third = first.chain (second.chain third) := by
  unfold chain
  rw [List.append_assoc]

/-- Parameters before a chain stand before all of it. -/
lemma foldl_chain (first : Params) (parts : List Params) :
    parts.foldl chain first = first.chain (parts.foldl chain empty) := by
  induction parts generalizing first with
  | nil => exact (chain_empty first).symm
  | cons part parts ih =>
      rw [List.foldl_cons, List.foldl_cons, ih, ih (empty.chain part), empty_chain, chain_assoc]

/-! ## Reading parts -/

/-- No bytes hold no parameters. -/
@[simp] lemma parse_nil : parse [] = empty := by
  unfold parse
  rw [Form.pieces_nil]
  rfl

/-- **Two parts** with an ampersand between them hold the parameters of the first part followed by
those of the second one. -/
lemma parse_append (first second : Bytes) :
    parse (first ++ 0x26 :: second) = (parse first).chain (parse second) := by
  unfold parse chain
  rw [Form.pieces_append, List.map_append]

/-- **One piece** holds at most one parameter. -/
lemma length_parse_le_one {piece : Bytes} (single : 0x26 ∉ piece) :
    (parse piece).pairs.length ≤ 1 := by
  by_cases empty : piece = []
  · rw [empty, parse_nil]
    exact Nat.zero_le 1
  · unfold parse
    rw [Form.pieces_of_notMem single empty]
    exact Nat.le_refl 1

/-- **Many parts** hold the same parameters whether they are joined before they are read or chained
after it. -/
lemma parse_intercalate (parts : List Bytes) :
    parse ([0x26].intercalate parts) = (parts.map parse).foldl chain empty := by
  induction parts with
  | nil => exact parse_nil
  | cons part parts ih =>
      rw [List.map_cons, List.foldl_cons, empty_chain, foldl_chain, ← ih]
      cases parts with
      | nil =>
          rw [List.intercalate_singleton, List.intercalate_nil, parse_nil, chain_empty]
      | cons next parts =>
          rw [List.intercalate_cons_cons, List.append_assoc, List.singleton_append, parse_append]

/-! ## Lookups -/

/-- **A lookup** takes the value of the first parameter of its name. -/
lemma get?_eq_find? (params : Params) (name : String) :
    params.get? name = (params.pairs.find? (·.1 = name)).map Prod.snd := by
  unfold get?
  induction params.pairs with
  | nil => rfl
  | cons pair pairs ih =>
      obtain ⟨key, value⟩ := pair
      rw [List.lookup_cons, List.find?_cons]
      by_cases same : name = key
      · simp [same]
      · have other : ¬ key = name := fun eq => same eq.symm
        simp [beq_false_of_ne same, other, ih]

/-- A lookup in a chain takes the first parameter of its name from the first part that has one. -/
lemma get?_chain_eq_find? (first second : Params) (name : String) :
    (first.chain second).get? name =
      ((first.pairs.find? (·.1 = name)).or (second.pairs.find? (·.1 = name))).map Prod.snd := by
  rw [get?_eq_find?]
  unfold chain
  rw [List.find?_append]

end Params
end AppCatalog
