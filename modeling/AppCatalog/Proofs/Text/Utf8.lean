import Mathlib.Tactic.Lemma
import Mathlib.Tactic.SplitIfs
import AppCatalog.Text.Utf8

/-!
# Reading what was written

Every text can be read back from its bytes, strictly and leniently, whatever follows it.

* **One character** (`Utf8.units_encodeChar`): the bytes of a character are one unit, in each of the
  four forms.
* **A text** (`Utf8.units_encode`): the units of a text are its characters, so that reading it
  gives it back, leniently (`Utf8.decodeLossy_encode`) and strictly (`Utf8.decode?_encode`).
* **ASCII bytes** (`Utf8.decode?_isSome_of_ascii`) are well-formed.
-/

namespace AppCatalog.Utf8

/-! ## Single bytes -/

/-- A number below 256 is the value of its byte. -/
lemma toNat_toUInt8 {n : Nat} (small : n < 0x100) : n.toUInt8.toNat = n :=
  UInt8.toNat_ofNat_of_lt small

/-- A byte within the bounds completes one step of a character. -/
lemma finish_cons {low high n : Nat} (small : n < 0x100) (lower : low ≤ n) (upper : n ≤ high)
    (count value : Nat) (rest : Bytes) :
    finish (count + 1) low high value (n.toUInt8 :: rest) =
      finish count 0x80 0xBF (value * 0x40 + n % 0x40) rest := by
  rw [finish, toNat_toUInt8 small, if_pos ⟨lower, upper⟩]

/-- A character is the one with its number. -/
lemma finish_zero (c : Char) {value : Nat} (value_eq : value = c.toNat) (low high : Nat)
    (rest : Bytes) : finish 0 low high value rest = (some c, rest) := by
  rw [finish, value_eq, Char.ofNat_toNat]

/-- A character is no surrogate and not above U+10FFFF. -/
lemma toNat_valid (c : Char) : c.toNat < 0xD800 ∨ 0xDFFF < c.toNat ∧ c.toNat < 0x110000 :=
  c.valid

/-! ## Units -/

/-- **The bytes of a character are one unit**, whatever follows them. -/
lemma units_encodeChar (c : Char) (rest : Bytes) :
    units (encodeChar c ++ rest) = some c :: units rest := by
  have valid := toNat_valid c
  unfold encodeChar
  dsimp only
  split_ifs with one two three
  · rw [List.singleton_append, units_cons]
    unfold unit
    rw [toNat_toUInt8 (by omega), if_pos one, Char.ofNat_toNat]
  · rw [List.cons_append, List.singleton_append, units_cons]
    unfold unit
    rw [toNat_toUInt8 (by omega), if_neg (by omega), if_pos (by omega),
      finish_cons (by omega) (by omega) (by omega), finish_zero c (by omega)]
  · rw [List.cons_append, List.cons_append, List.singleton_append, units_cons]
    unfold unit
    rw [toNat_toUInt8 (by omega), if_neg (by omega), if_neg (by omega), if_pos (by omega),
      finish_cons (by omega) (by split_ifs <;> omega) (by split_ifs <;> omega),
      finish_cons (by omega) (by omega) (by omega), finish_zero c (by omega)]
  · rw [List.cons_append, List.cons_append, List.cons_append, List.singleton_append, units_cons]
    unfold unit
    rw [toNat_toUInt8 (by omega), if_neg (by omega), if_neg (by omega), if_neg (by omega),
      if_pos (by omega),
      finish_cons (by omega) (by split_ifs <;> omega) (by split_ifs <;> omega),
      finish_cons (by omega) (by omega) (by omega),
      finish_cons (by omega) (by omega) (by omega), finish_zero c (by omega)]

/-- **The units of a text are its characters.** -/
lemma units_encode_append (text : String) (rest : Bytes) :
    units (encode text ++ rest) = text.toList.map some ++ units rest := by
  unfold encode
  induction text.toList with
  | nil => rfl
  | cons c chars ih =>
      rw [List.flatMap_cons, List.append_assoc, units_encodeChar, ih]
      rfl

/-- The units of a text that nothing follows. -/
lemma units_encode (text : String) : units (encode text) = text.toList.map some := by
  have units_eq := units_encode_append text []
  rwa [List.append_nil, units_nil, List.append_nil] at units_eq

/-- **Reading a text leniently gives it back.** -/
lemma decodeLossy_encode (text : String) : decodeLossy (encode text) = text := by
  unfold decodeLossy
  rw [units_encode, List.map_map]
  show String.ofList (text.toList.map fun c => c) = text
  rw [List.map_id', String.ofList_toList]

/-- **Reading a text strictly gives it back.** -/
lemma decode?_encode (text : String) : decode? (encode text) = some text := by
  have whole : (units (encode text)).all Option.isSome = true := by simp [units_encode]
  have read := decodeLossy_encode text
  unfold decodeLossy at read
  unfold decode?
  rw [if_pos whole, read]

/-! ## ASCII -/

/-- The units of ASCII bytes are their characters. -/
lemma units_of_ascii {bytes : Bytes} (ascii : ∀ byte ∈ bytes, byte.toNat < 0x80) :
    units bytes = bytes.map fun byte => some (Char.ofNat byte.toNat) := by
  induction bytes with
  | nil => rfl
  | cons byte bytes ih =>
      rw [units_cons]
      unfold unit
      rw [if_pos (ascii byte List.mem_cons_self)]
      dsimp only
      rw [ih fun other among => ascii other (List.mem_cons_of_mem _ among), List.map_cons]

/-- **ASCII bytes are well-formed.** -/
lemma decode?_isSome_of_ascii {bytes : Bytes} (ascii : ∀ byte ∈ bytes, byte.toNat < 0x80) :
    (decode? bytes).isSome = true := by
  unfold decode?
  rw [units_of_ascii ascii]
  dsimp only
  rw [if_pos]
  · rfl
  · rw [List.all_map, List.all_eq_true]
    exact fun _ _ => rfl

end AppCatalog.Utf8
