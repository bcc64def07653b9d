import AppCatalog.Proofs.Text.Utf8

/-!
# Reading damaged bytes

Bytes that are no text are read leniently. This file says what of them is read as what, and that
damage stays where it is.

* **Reading splits** (`Utf8.units_append`) wherever no continuation byte follows: what is cut off
  there is completed by nothing behind it.
* **A unit is a run of bytes** (`Utf8.exists_run_of_unit`): all bytes of one character, or one to
  three bytes that are no text. Bytes are such runs in a row (`Utf8.runs_units`).
* **Only what is written for a text is read as that text strictly** (`Utf8.decode?_eq_some_iff`),
  and leniently too if the text has no replacement character (`Utf8.eq_encode_of_decodeLossy`).
* **Damage stays apart** (`Utf8.DamageStaysApart`) in every text that is read leniently.
-/

namespace AppCatalog.Utf8

variable {bytes before after rest left : Bytes} {first : UInt8} {c : Char}

/-! ## Where reading splits -/

/-- Whether a byte continues a character. -/
def IsContinuation (byte : UInt8) : Prop := 0x80 ≤ byte.toNat ∧ byte.toNat ≤ 0xBF

/-- Whether bytes continue nothing: there are none, or the first of them is no continuation byte. -/
def StartsAnew (bytes : Bytes) : Prop := ∀ byte, bytes.head? = some byte → ¬ IsContinuation byte

/-- A first byte is a unit on its own, or tells what has to follow it. -/
lemma unit_cases (first : UInt8) :
    (∃ c?, ∀ rest, unit first rest = (c?, rest)) ∨
      ∃ count low high value, count ≤ 3 ∧ 0x80 ≤ low ∧ high ≤ 0xBF ∧
        ∀ rest, unit first rest = finish count low high value rest := by
  unfold unit
  dsimp only
  split_ifs
  · exact .inl ⟨_, fun _ => rfl⟩
  · exact .inr ⟨1, 0x80, 0xBF, _, by decide, by decide, by decide, fun _ => rfl⟩
  · exact .inr ⟨2, 0xA0, 0x9F, _, by decide, by decide, by decide, fun _ => rfl⟩
  · exact .inr ⟨2, 0xA0, 0xBF, _, by decide, by decide, by decide, fun _ => rfl⟩
  · exact .inr ⟨2, 0x80, 0x9F, _, by decide, by decide, by decide, fun _ => rfl⟩
  · exact .inr ⟨2, 0x80, 0xBF, _, by decide, by decide, by decide, fun _ => rfl⟩
  · exact .inr ⟨3, 0x90, 0x8F, _, by decide, by decide, by decide, fun _ => rfl⟩
  · exact .inr ⟨3, 0x90, 0xBF, _, by decide, by decide, by decide, fun _ => rfl⟩
  · exact .inr ⟨3, 0x80, 0x8F, _, by decide, by decide, by decide, fun _ => rfl⟩
  · exact .inr ⟨3, 0x80, 0xBF, _, by decide, by decide, by decide, fun _ => rfl⟩
  · exact .inl ⟨_, fun _ => rfl⟩

/-- A character that is not complete stays so in front of bytes that continue nothing. -/
lemma finish_append (anew : StartsAnew after) {count low high value : Nat} (lower : 0x80 ≤ low)
    (upper : high ≤ 0xBF) (bytes : Bytes) :
    finish count low high value (bytes ++ after) =
      ((finish count low high value bytes).1, (finish count low high value bytes).2 ++ after) := by
  induction bytes generalizing count low high value with
  | nil =>
      rcases count with _ | count
      · rfl
      rcases after with _ | ⟨byte, after⟩
      · rfl
      · have outside : ¬ (low ≤ byte.toNat ∧ byte.toNat ≤ high) := fun inside =>
          anew byte rfl ⟨Nat.le_trans lower inside.1, Nat.le_trans inside.2 upper⟩
        exact if_neg outside
  | cons byte bytes ih =>
      rcases count with _ | count
      · rfl
      · rw [List.cons_append, finish, finish]
        split_ifs
        · exact ih (by decide) (by decide)
        · rfl

/-- A unit is the same in front of bytes that continue nothing. -/
lemma unit_append (anew : StartsAnew after) (first : UInt8) (rest : Bytes) :
    unit first (rest ++ after) = ((unit first rest).1, (unit first rest).2 ++ after) := by
  rcases unit_cases first with ⟨c?, alone⟩ | ⟨count, low, high, value, -, lower, upper, follows⟩
  · rw [alone, alone]
  · rw [follows, follows]
    exact finish_append anew lower upper rest

/-- **Reading splits** in front of bytes that continue nothing. -/
lemma units_append (anew : StartsAnew after) (before : Bytes) :
    units (before ++ after) = units before ++ units after := by
  induction length_eq : before.length using Nat.strongRecOn generalizing before with
  | ind length ih =>
      rcases before with _ | ⟨first, rest⟩
      · rfl
      · have shorter : (unit first rest).2.length < length :=
          length_eq ▸ Nat.lt_succ_of_le (length_unit_le first rest)
        rw [List.cons_append, units_cons, units_cons, unit_append anew]
        dsimp only
        rw [ih _ shorter _ rfl, List.cons_append]

/-! ## The bytes of a unit -/

/-- What is complete is the character of its number. -/
lemma of_finish_zero {low high value : Nat}
    (complete : finish 0 low high value bytes = (some c, left)) :
    c = Char.ofNat value ∧ bytes = left := by
  rw [finish] at complete
  cases complete
  exact ⟨rfl, rfl⟩

/-- A character that lacks bytes is completed by the next one. -/
lemma exists_of_finish_succ {count low high value : Nat}
    (complete : finish (count + 1) low high value bytes = (some c, left)) :
    ∃ byte rest, bytes = byte :: rest ∧ low ≤ byte.toNat ∧ byte.toNat ≤ high ∧
      finish count 0x80 0xBF (value * 0x40 + byte.toNat % 0x40) rest = (some c, left) := by
  rcases bytes with _ | ⟨byte, rest⟩
  · cases complete
  · rw [finish] at complete
    split_ifs at complete with inside
    · exact ⟨byte, rest, rfl, inside.1, inside.2, complete⟩
    · cases complete

/-- A character that is not completed has dropped fewer bytes than it lacked. -/
lemma exists_of_finish_none {count low high value : Nat}
    (cut : finish count low high value bytes = (none, left)) :
    ∃ dropped, bytes = dropped ++ left ∧ dropped.length < count ∧
      finish count low high value dropped = (none, []) := by
  induction bytes generalizing count low high value with
  | nil =>
      rcases count with _ | count
      · cases cut
      · cases cut
        exact ⟨[], rfl, Nat.succ_pos count, rfl⟩
  | cons byte bytes ih =>
      rcases count with _ | count
      · cases cut
      · rw [finish] at cut
        split_ifs at cut with inside
        · obtain ⟨dropped, split, fewer, cut'⟩ := ih cut
          refine ⟨byte :: dropped, by rw [split]; rfl, Nat.succ_lt_succ fewer, ?_⟩
          rw [finish, if_pos inside, cut']
        · cases cut
          exact ⟨[], rfl, Nat.succ_pos count, rfl⟩

/-- A character has the number from which it was made. -/
lemma toNat_ofNat {n : Nat} (valid : n < 0xD800 ∨ 0xDFFF < n ∧ n < 0x110000) :
    (Char.ofNat n).toNat = n := by
  have isValid : n.isValidChar := valid
  unfold Char.ofNat
  rw [dif_pos isValid]
  rfl

/-- A byte is the one with its value. -/
lemma toUInt8_eq {n : Nat} {byte : UInt8} (value_eq : n = byte.toNat) : n.toUInt8 = byte := by
  rw [value_eq]
  exact UInt8.ofNat_toNat

/-- The character of a number is written in the form for numbers of its size. -/
lemma encodeChar_ofNat {n : Nat} (valid : n < 0xD800 ∨ 0xDFFF < n ∧ n < 0x110000) :
    encodeChar (Char.ofNat n) =
      if n < 0x80 then [n.toUInt8]
      else if n < 0x800 then [(0xC0 + n / 0x40).toUInt8, (0x80 + n % 0x40).toUInt8]
      else if n < 0x10000 then
        [(0xE0 + n / 0x1000).toUInt8, (0x80 + n / 0x40 % 0x40).toUInt8, (0x80 + n % 0x40).toUInt8]
      else
        [(0xF0 + n / 0x40000).toUInt8, (0x80 + n / 0x1000 % 0x40).toUInt8,
          (0x80 + n / 0x40 % 0x40).toUInt8, (0x80 + n % 0x40).toUInt8] := by
  unfold encodeChar
  rw [toNat_ofNat valid]

/-- **A unit that is a character** is made of all its bytes. -/
lemma eq_append_of_unit (read : unit first rest = (some c, left)) :
    first :: rest = encodeChar c ++ left := by
  have small := first.toNat_lt
  unfold unit at read
  dsimp only at read
  by_cases one : first.toNat < 0x80
  · rw [if_pos one] at read
    cases read
    rw [encodeChar_ofNat (by omega), if_pos one, toUInt8_eq rfl]
    rfl
  rw [if_neg one] at read
  by_cases two : 0xC2 ≤ first.toNat ∧ first.toNat ≤ 0xDF
  · rw [if_pos two] at read
    obtain ⟨second, _, rfl, lower, upper, read⟩ := exists_of_finish_succ read
    obtain ⟨rfl, rfl⟩ := of_finish_zero read
    rw [encodeChar_ofNat (by omega), if_neg (by omega), if_pos (by omega)]
    exact List.cons_eq_cons.2 ⟨(toUInt8_eq (by omega)).symm,
      List.cons_eq_cons.2 ⟨(toUInt8_eq (by omega)).symm, rfl⟩⟩
  rw [if_neg two] at read
  by_cases three : 0xE0 ≤ first.toNat ∧ first.toNat ≤ 0xEF
  · rw [if_pos three] at read
    obtain ⟨second, _, rfl, lower, upper, read⟩ := exists_of_finish_succ read
    obtain ⟨third, _, rfl, lower', upper', read⟩ := exists_of_finish_succ read
    obtain ⟨rfl, rfl⟩ := of_finish_zero read
    -- the bounds on the second byte keep out overlong forms and surrogates
    have notOverlong : first.toNat = 0xE0 → 0xA0 ≤ second.toNat := fun isE0 => by
      rwa [if_pos isE0] at lower
    have noSurrogate : first.toNat = 0xED → second.toNat ≤ 0x9F := fun isED => by
      rwa [if_pos isED] at upper
    have continues : 0x80 ≤ second.toNat ∧ second.toNat ≤ 0xBF := by
      split_ifs at lower upper <;> omega
    clear lower upper
    rw [encodeChar_ofNat (by omega), if_neg (by omega), if_neg (by omega), if_pos (by omega)]
    exact List.cons_eq_cons.2 ⟨(toUInt8_eq (by omega)).symm,
      List.cons_eq_cons.2 ⟨(toUInt8_eq (by omega)).symm,
        List.cons_eq_cons.2 ⟨(toUInt8_eq (by omega)).symm, rfl⟩⟩⟩
  rw [if_neg three] at read
  by_cases four : 0xF0 ≤ first.toNat ∧ first.toNat ≤ 0xF4
  · rw [if_pos four] at read
    obtain ⟨second, _, rfl, lower, upper, read⟩ := exists_of_finish_succ read
    obtain ⟨third, _, rfl, lower', upper', read⟩ := exists_of_finish_succ read
    obtain ⟨fourth, _, rfl, lower'', upper'', read⟩ := exists_of_finish_succ read
    obtain ⟨rfl, rfl⟩ := of_finish_zero read
    -- here they keep out overlong forms and numbers that are too large
    have notOverlong : first.toNat = 0xF0 → 0x90 ≤ second.toNat := fun isF0 => by
      rwa [if_pos isF0] at lower
    have notTooLarge : first.toNat = 0xF4 → second.toNat ≤ 0x8F := fun isF4 => by
      rwa [if_pos isF4] at upper
    have continues : 0x80 ≤ second.toNat ∧ second.toNat ≤ 0xBF := by
      split_ifs at lower upper <;> omega
    clear lower upper
    rw [encodeChar_ofNat (by omega), if_neg (by omega), if_neg (by omega), if_neg (by omega)]
    exact List.cons_eq_cons.2 ⟨(toUInt8_eq (by omega)).symm,
      List.cons_eq_cons.2 ⟨(toUInt8_eq (by omega)).symm,
        List.cons_eq_cons.2 ⟨(toUInt8_eq (by omega)).symm,
          List.cons_eq_cons.2 ⟨(toUInt8_eq (by omega)).symm, rfl⟩⟩⟩⟩
  rw [if_neg four] at read
  cases read

/-! ## Runs of bytes -/

/-- Whether bytes are read as one unit: as the character that they spell, or as none. -/
inductive Run : Bytes → Option Char → Prop
  /-- All bytes of a character. -/
  | character (c : Char) : Run (encodeChar c) (some c)
  /-- One to three bytes that are no text. -/
  | damage {bytes : Bytes} (one_le : 1 ≤ bytes.length) (le_three : bytes.length ≤ 3)
      (illFormed : decode? bytes = none) : Run bytes none

/-- Whether bytes are runs in a row that are read as those units. -/
inductive Runs : Bytes → List (Option Char) → Prop
  | nil : Runs [] []
  | cons {taken rest : Bytes} {c? : Option Char} {others : List (Option Char)}
      (run : Run taken c?) (runs : Runs rest others) : Runs (taken ++ rest) (c? :: others)

/-- Bytes whose only unit is no character are no text. -/
lemma decode?_of_unit (cut : unit first rest = (none, [])) : decode? (first :: rest) = none := by
  unfold decode?
  rw [units_cons, cut]
  rfl

/-- **A unit is a run of bytes.** -/
lemma exists_run_of_unit (first : UInt8) (rest : Bytes) :
    ∃ taken, first :: rest = taken ++ (unit first rest).2 ∧ Run taken (unit first rest).1 := by
  rcases read : unit first rest with ⟨_ | c, left⟩
  · rcases unit_cases first with ⟨c?, alone⟩ | ⟨count, low, high, value, few, -, -, follows⟩
    · rw [alone] at read
      cases read
      exact ⟨[first], rfl, .damage (Nat.le_refl 1) (Nat.succ_pos 2) (decode?_of_unit (alone []))⟩
    · rw [follows] at read
      obtain ⟨dropped, rfl, fewer, cut⟩ := exists_of_finish_none read
      refine ⟨first :: dropped, rfl, .damage (Nat.succ_pos _) (Nat.lt_of_lt_of_le fewer few) ?_⟩
      exact decode?_of_unit ((follows dropped).trans cut)
  · exact ⟨encodeChar c, eq_append_of_unit read, .character c⟩

/-- **Bytes are runs in a row**, and are read as these. -/
lemma runs_units (bytes : Bytes) : Runs bytes (units bytes) := by
  induction length_eq : bytes.length using Nat.strongRecOn generalizing bytes with
  | ind length ih =>
      rcases bytes with _ | ⟨first, rest⟩
      · exact .nil
      · have shorter : (unit first rest).2.length < length :=
          length_eq ▸ Nat.lt_succ_of_le (length_unit_le first rest)
        obtain ⟨taken, split, run⟩ := exists_run_of_unit first rest
        rw [units_cons, split]
        exact .cons run (ih _ shorter _ rfl)

/-- A run has at least one byte. -/
lemma Run.length_pos {c? : Option Char} (run : Run bytes c?) : 1 ≤ bytes.length := by
  cases run with
  | character c =>
      unfold encodeChar
      dsimp only
      split_ifs <;> exact Nat.succ_pos _
  | damage one_le _ _ => exact one_le

/-- There are no more units than bytes. -/
lemma Runs.length_le {found : List (Option Char)} (runs : Runs bytes found) :
    found.length ≤ bytes.length := by
  induction runs with
  | nil => exact Nat.le_refl 0
  | cons run runs ih =>
      have := run.length_pos
      rw [List.length_cons, List.length_append]
      omega

/-- Bytes without units are none. -/
lemma Runs.eq_nil (runs : Runs bytes []) : bytes = [] := by
  cases runs
  rfl

/-- Bytes that are all runs of characters are the bytes of these. -/
lemma Runs.eq_flatMap {found : List (Option Char)} (runs : Runs bytes found) {chars : List Char}
    (whole : found = chars.map some) : bytes = chars.flatMap encodeChar := by
  induction runs generalizing chars with
  | nil =>
      rw [List.map_eq_nil_iff.1 whole.symm]
      rfl
  | cons run runs ih =>
      rcases chars with _ | ⟨c, chars⟩
      · cases whole
      · rw [List.map_cons, List.cons_eq_cons] at whole
        obtain ⟨rfl, whole⟩ := whole
        cases run
        rw [List.flatMap_cons, ih whole]

/-! ## Strict and lenient reading -/

/-- Characters that are all there are units that are all characters. -/
lemma eq_map_some {found : List (Option Char)} (whole : ∀ c? ∈ found, c?.isSome = true) :
    found = (found.map (·.getD replacement)).map some := by
  rw [List.map_map]
  refine (List.map_id found).symm.trans (List.map_congr_left fun c? among => ?_)
  obtain ⟨c, rfl⟩ := Option.isSome_iff_exists.1 (whole c? among)
  rfl

/-- **Only what is written for a text is read as that text strictly.** -/
lemma decode?_eq_some_iff {text : String} : decode? bytes = some text ↔ bytes = encode text := by
  refine ⟨fun read => ?_, fun written => written ▸ decode?_encode text⟩
  unfold decode? at read
  dsimp only at read
  split_ifs at read with whole
  cases read
  have isChars := eq_map_some (List.all_eq_true.1 whole)
  unfold encode
  rw [String.toList_ofList]
  exact (runs_units bytes).eq_flatMap isChars

/-- **Only what is written for a text is read as that text leniently**, if the text has no
replacement character. -/
lemma eq_encode_of_decodeLossy {text : String} (read : decodeLossy bytes = text)
    (intact : replacement ∉ text.toList) : bytes = encode text := by
  unfold decodeLossy at read
  subst read
  rw [String.toList_ofList] at intact
  have whole : ∀ c? ∈ units bytes, c?.isSome = true := by
    rintro (_ | c) among
    · exact absurd (List.mem_map.2 ⟨none, among, rfl⟩) intact
    · rfl
  unfold encode
  rw [String.toList_ofList]
  exact (runs_units bytes).eq_flatMap (eq_map_some whole)

/-! ## Damage stays apart -/

/-- No character begins with a continuation byte. -/
lemma startsAnew_encode {text : String} (full : text ≠ "") (after : Bytes) :
    StartsAnew (encode text ++ after) := by
  obtain ⟨c, chars, chars_eq⟩ := List.exists_cons_of_ne_nil
    (mt (fun empty : text.toList = [] => String.toList_eq_nil_iff.1 empty) full)
  intro byte isFirst continues
  unfold encode at isFirst
  rw [chars_eq, List.flatMap_cons, List.append_assoc] at isFirst
  have valid := toNat_valid c
  unfold encodeChar at isFirst
  dsimp only at isFirst
  obtain ⟨lower, upper⟩ := continues
  split_ifs at isFirst <;> cases isFirst <;> rw [toNat_toUInt8 (by omega)] at lower upper <;> omega

/-- Whether reading bytes as a text keeps damage apart: what is no text damages only itself. -/
structure DamageStaysApart (read : Bytes → String) : Prop where
  /-- Reading splits in front of bytes that continue nothing. -/
  append : ∀ before after, StartsAnew after → read (before ++ after) = read before ++ read after
  /-- What is written for a text is read as that text. -/
  text : ∀ text, read (encode text) = text
  /-- A text among any other bytes is neither swallowed nor altered. -/
  between : ∀ before text after, text ≠ "" →
    read (before ++ (encode text ++ after)) = read before ++ text ++ read after
  /-- No more characters are read than there are bytes. -/
  length_le : ∀ bytes, (read bytes).length ≤ bytes.length
  /-- Nothing is read of no bytes only. -/
  eq_nil : ∀ bytes, read bytes = "" → bytes = []
  /-- Bytes are runs in a row: each is read as the character that it spells, or else it is one to
  three bytes and read as the replacement character. -/
  runs : ∀ bytes, ∃ found, Runs bytes found ∧
    read bytes = String.ofList (found.map (·.getD replacement))

/-- **Damage stays apart** when bytes are read leniently. -/
lemma damageStaysApart_decodeLossy : DamageStaysApart decodeLossy := by
  have append : ∀ before after, StartsAnew after →
      decodeLossy (before ++ after) = decodeLossy before ++ decodeLossy after := by
    intro before after anew
    unfold decodeLossy
    rw [units_append anew, List.map_append, String.ofList_append]
  have length_eq : ∀ bytes, (decodeLossy bytes).length = (units bytes).length := by
    intro bytes
    unfold decodeLossy
    rw [String.length_ofList, List.length_map]
  refine ⟨append, decodeLossy_encode, fun before text after full => ?_, fun bytes => ?_,
    fun bytes empty => ?_, fun bytes => ⟨units bytes, runs_units bytes, rfl⟩⟩
  · rw [append _ _ (startsAnew_encode full after), String.append_assoc]
    refine congrArg (decodeLossy before ++ ·) ?_
    unfold decodeLossy
    rw [units_encode_append, List.map_append, String.ofList_append, List.map_map]
    show String.ofList (text.toList.map fun c => c) ++ _ = _
    rw [List.map_id', String.ofList_toList]
  · rw [length_eq]
    exact (runs_units bytes).length_le
  · have none := length_eq bytes
    rw [empty] at none
    have runs := runs_units bytes
    rw [List.eq_nil_of_length_eq_zero none.symm] at runs
    exact runs.eq_nil

end AppCatalog.Utf8
