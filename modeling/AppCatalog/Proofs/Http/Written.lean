import Mathlib.Data.List.TakeWhile
import Mathlib.Tactic.Lemma
import AppCatalog.Http.Request
import AppCatalog.Proofs.Form.Serializer

/-!
# Requests that are written down

A path and a query of harmless bytes make a target that is read as it was written, and with a method
and headers that can be sent they make a request.

* **Harmless bytes** (`Target.ends_of_isPathByte`, `Target.ends_of_isQueryByte`): a byte that may
  stand in a path or a query ends neither and is ASCII. What is written of parameters may stand in
  a query (`Form.isQueryByte_of_mem_serialize`).
* **Targets** (`Target.parse_written`) are read back from their written form, if it is not too long.
* **Requests** (`Request.build_written`) are built of such targets.
-/

namespace AppCatalog

/-! ## Harmless bytes -/

/-- A byte of a path is ASCII and ends no path. -/
lemma Target.ends_of_isPathByte {byte : UInt8} (inPath : isPathByte byte = true) :
    byte.toNat < 0x80 ∧ byte ≠ 0x23 ∧ byte ≠ 0x3F := by
  simp only [isPathByte, Bool.or_eq_true, Bool.and_eq_true, decide_eq_true_eq,
    UInt8.le_iff_toNat_le, ← UInt8.toNat_inj, ne_eq] at inPath ⊢
  simp at inPath ⊢
  omega

/-- A byte of a query is ASCII and ends no query. -/
lemma Target.ends_of_isQueryByte {byte : UInt8} (inQuery : isQueryByte byte = true) :
    byte.toNat < 0x80 ∧ byte ≠ 0x23 := by
  simp only [isQueryByte, Bool.or_eq_true, Bool.and_eq_true, decide_eq_true_eq,
    UInt8.le_iff_toNat_le, ← UInt8.toNat_inj, ne_eq] at inQuery ⊢
  simp at inQuery ⊢
  omega

/-- What is written of a text may stand in a query. -/
lemma Form.isQueryByte_of_isWritten {byte : UInt8} (written : isWritten byte = true) :
    Target.isQueryByte byte = true := by
  simp only [isWritten, isPlain, Target.isLetter, Target.isDigit, Target.isQueryByte,
    Bool.or_eq_true, Bool.and_eq_true, decide_eq_true_eq, List.mem_cons, List.not_mem_nil, or_false,
    UInt8.le_iff_toNat_le, ← UInt8.toNat_inj] at written ⊢
  simp at written ⊢
  omega

/-- What is written of parameters may stand in a query. -/
lemma Form.isQueryByte_of_mem_serialize {pairs : List (String × String)} {byte : UInt8}
    (among : byte ∈ serialize pairs) : Target.isQueryByte byte = true := by
  rcases isWritten_of_mem_serialize among with written | rfl | rfl
  · exact isQueryByte_of_isWritten written
  · decide
  · decide

/-! ## Targets -/

namespace Target

/-- The written form of a target. -/
def written (target : Target) : Bytes :=
  target.path ++ target.query.elim [] (0x3F :: ·)

/-- Whether a target consists of bytes that may be written in it. -/
structure IsWritable (target : Target) : Prop where
  path : ∀ byte ∈ target.path, isPathByte byte = true
  query : ∀ query, target.query = some query → ∀ byte ∈ query, isQueryByte byte = true

namespace IsWritable

variable {target : Target}

/-- What is written of a target is ASCII without a fragment. -/
lemma of_mem_written (writable : target.IsWritable) {byte : UInt8}
    (among : byte ∈ target.written) : byte.toNat < 0x80 ∧ byte ≠ 0x23 := by
  unfold written at among
  rcases List.mem_append.mp among with among | among
  · have ends := ends_of_isPathByte (writable.path byte among)
    exact ⟨ends.1, ends.2.1⟩
  · rcases asked : target.query with _ | query
    · rw [asked] at among
      cases among
    · rw [asked] at among
      rcases List.mem_cons.mp among with rfl | among
      · decide
      · exact ends_of_isQueryByte (writable.query query asked byte among)

/-- There is no fragment to be dropped. -/
lemma withoutFragment_written (writable : target.IsWritable) :
    withoutFragment target.written = target.written := by
  unfold withoutFragment
  rw [List.takeWhile_eq_self_iff]
  intro byte among
  exact bne_iff_ne.mpr (writable.of_mem_written among).2

/-- The path ends where the query begins. -/
lemma split_written (writable : target.IsWritable) :
    target.written.takeWhile (· != 0x3F) = target.path ∧
      target.written.dropWhile (· != 0x3F) = target.query.elim [] (0x3F :: ·) := by
  have inPath : ∀ byte ∈ target.path, (byte != 0x3F) = true := fun byte among =>
    bne_iff_ne.mpr (ends_of_isPathByte (writable.path byte among)).2.2
  unfold written
  rw [List.takeWhile_append_of_pos inPath, List.dropWhile_append_of_pos inPath]
  cases target.query <;> simp

/-- **A path and a query are read back from their written form.** -/
lemma ofPathAndQuery_written (writable : target.IsWritable) :
    ofPathAndQuery target.written = .ok target := by
  have wellFormed : (Utf8.decode? target.written).isSome = true :=
    Utf8.decode?_isSome_of_ascii fun byte among => (writable.of_mem_written among).1
  obtain ⟨path_eq, query_eq⟩ := writable.split_written
  have path_all : target.path.all (fun byte => isPathByte byte || isWide byte) = true := by
    rw [List.all_eq_true]
    intro byte among
    rw [writable.path byte among, Bool.true_or]
  have query_all : ((target.query.elim [] (0x3F :: ·)).drop 1).all
      (fun byte => isQueryByte byte || isWide byte) = true := by
    rw [List.all_eq_true]
    intro byte among
    rcases asked : target.query with _ | query
    · rw [asked] at among
      cases among
    · rw [asked] at among
      rw [writable.query query asked byte among, Bool.true_or]
  unfold ofPathAndQuery
  rw [writable.withoutFragment_written]
  dsimp only
  rw [path_eq, query_eq, path_all, query_all, wellFormed]
  rcases target with ⟨path, _ | query⟩ <;> rfl

/-- **A target is read back from its written form**, if that starts with a slash and is not too
long. -/
lemma parse_written (writable : target.IsWritable) {rest : Bytes}
    (slash : target.path = 0x2F :: rest) (fits : target.written.length ≤ maxBytes) :
    parse target.written = .ok target := by
  have reads := writable.ofPathAndQuery_written
  have starts : target.written = 0x2F :: (rest ++ target.query.elim [] (0x3F :: ·)) := by
    unfold written
    rw [slash]
    rfl
  unfold parse
  rw [if_neg (Nat.not_lt.mpr fits)]
  rw [starts] at reads ⊢
  exact reads

end IsWritable
end Target

/-! ## Requests -/

/-- **A request is built of a target that is written down**, with headers that can be sent. -/
lemma Request.build_written {method : Bytes} {known : Method} {target : Target} {rest : Bytes}
    {headers : List Header} (token : Method.ofToken? method = some known)
    (writable : target.IsWritable) (slash : target.path = 0x2F :: rest)
    (fits : target.written.length ≤ Target.maxBytes)
    (sendable : ∃ names, headers.foldlM Header.check ∅ = .ok names) (body : Bytes) :
    build method target.written headers body = .ok { method := known, target, headers, body } := by
  obtain ⟨names, checked⟩ := sendable
  unfold build
  rw [token]
  dsimp only
  rw [writable.parse_written slash fits, checked]
  rfl

end AppCatalog
