import Mathlib.Tactic.SplitIfs
import AppCatalog.Http.Target
import AppCatalog.Proofs.Form.Spelling

/-!
# Writing form parameters

Parameters are written as the `application/x-www-form-urlencoded` format wants it: letters, digits
and four marks as they are, a plus sign for a space, and an escape for any other byte.

* **What is written** (`Form.isWritten_of_mem_serialize`) consists of few bytes, none of which has
  a meaning in a target.
* **What is written is a spelling** (`Form.spells_serialize`) of the parameters, so that they are
  read back in their order, whatever their names and values are (`Params.parse_serialize`).
* **Reading undoes every spelling** (`Params.parse_undoes_spelling`), this one and all others.
-/

namespace AppCatalog

open Text

namespace Form

/-! ## The written form -/

/-- Whether a byte is written as it is. -/
def isPlain (byte : UInt8) : Bool :=
  Target.isLetter byte || Target.isDigit byte || byte ∈ [0x2A, 0x2D, 0x2E, 0x5F]

/-- The written form of a byte. -/
def encodeByte (byte : UInt8) : Bytes :=
  if isPlain byte then [byte]
  else if byte = 0x20 then [0x2B]
  else [0x25, (upperDigit (byte.toNat / 16)).toUInt8, (upperDigit (byte.toNat % 16)).toUInt8]

/-- The written form of a text. -/
def encodeText (text : String) : Bytes :=
  (Utf8.encode text).flatMap encodeByte

/-- The written form of a parameter. -/
def encodePair (pair : String × String) : Bytes :=
  encodeText pair.1 ++ 0x3D :: encodeText pair.2

/-- The written form of parameters. -/
def serialize (pairs : List (String × String)) : Bytes :=
  [0x26].intercalate (pairs.map encodePair)

/-! ## Which bytes are written -/

/-- Whether a byte may stand in the written form of a text. -/
def isWritten (byte : UInt8) : Bool :=
  isPlain byte || byte = 0x25 || byte = 0x2B

/-- The digits of an escape are plain. -/
lemma isPlain_upperDigit : ∀ value < 16, isPlain (upperDigit value).toUInt8 = true := by
  decide

/-- A byte is written in few bytes. -/
lemma isWritten_of_mem_encodeByte {byte written : UInt8} (among : written ∈ encodeByte byte) :
    isWritten written = true := by
  have small := byte.toNat_lt
  unfold encodeByte at among
  split_ifs at among with plain space
  · rw [List.mem_singleton.mp among]
    simp [isWritten, plain]
  · rw [List.mem_singleton.mp among]
    decide
  · simp only [List.mem_cons, List.not_mem_nil, or_false] at among
    rcases among with rfl | rfl | rfl
    · decide
    · simp [isWritten, isPlain_upperDigit (byte.toNat / 16) (by omega)]
    · simp [isWritten, isPlain_upperDigit (byte.toNat % 16) (by omega)]

/-- A text is written in few bytes. -/
lemma isWritten_of_mem_encodeText {text : String} {written : UInt8}
    (among : written ∈ encodeText text) : isWritten written = true := by
  obtain ⟨byte, -, among⟩ := List.mem_flatMap.mp among
  exact isWritten_of_mem_encodeByte among

/-- What is written of one parameter: the bytes of texts and an equals sign. -/
lemma isWritten_of_mem_encodePair {pair : String × String} {written : UInt8}
    (among : written ∈ encodePair pair) : isWritten written = true ∨ written = 0x3D := by
  unfold encodePair at among
  rw [List.mem_append, List.mem_cons] at among
  rcases among with among | equals | among
  · exact .inl (isWritten_of_mem_encodeText among)
  · exact .inr equals
  · exact .inl (isWritten_of_mem_encodeText among)

/-- **What is written of parameters**: the bytes of texts, equals signs and ampersands. -/
lemma isWritten_of_mem_serialize {pairs : List (String × String)} {written : UInt8}
    (among : written ∈ serialize pairs) :
    isWritten written = true ∨ written = 0x3D ∨ written = 0x26 := by
  unfold serialize at among
  induction pairs with
  | nil => cases among
  | cons pair pairs ih =>
      have first : written ∈ encodePair pair →
          isWritten written = true ∨ written = 0x3D ∨ written = 0x26 := fun among =>
        (isWritten_of_mem_encodePair among).imp_right .inl
      cases pairs with
      | nil =>
          rw [List.map_singleton, List.intercalate_singleton] at among
          exact first among
      | cons pair' pairs =>
          rw [List.map_cons, List.map_cons, List.intercalate_cons_cons, List.mem_append,
            List.mem_append, List.mem_singleton] at among
          rcases among with (among | ampersand) | among
          · exact first among
          · exact .inr (.inr ampersand)
          · exact ih among

/-! ## What is written is a spelling -/

/-- What is written for a byte spells it, in a name and in a value. -/
lemma spellsByte_encodeByte (role : Role) (byte : UInt8) :
    SpellsByte role byte (encodeByte byte) := by
  unfold encodeByte
  split_ifs with plain space
  · have ne_of_not_plain : ∀ mark : UInt8, isPlain mark = false → byte ≠ mark := by
      rintro mark notPlain rfl
      rw [plain] at notPlain
      cases notPlain
    exact .plain (ne_of_not_plain _ rfl) (ne_of_not_plain _ rfl) (ne_of_not_plain _ rfl)
      fun _ => ne_of_not_plain _ rfl
  · exact .plus space
  · exact .escape (.inl rfl) (.inl rfl)

/-- What is written for a text spells it, as a name and as a value. -/
lemma spellsText_encodeText (role : Role) (text : String) :
    SpellsText role text (encodeText text) := by
  refine ⟨(Utf8.encode text).map encodeByte, ?_, List.flatMap_def⟩
  rw [List.forall₂_map_right_iff, List.forall₂_same]
  exact fun byte _ => spellsByte_encodeByte role byte

/-- What is written for parameters spells them, piece by piece. -/
lemma spellsPieces_map_encodePair (pairs : List (String × String)) :
    SpellsPieces pairs (pairs.map encodePair) := by
  induction pairs with
  | nil => exact .nil
  | cons pair pairs ih =>
      exact .pair (.full (spellsText_encodeText .name _) (spellsText_encodeText .value _)) ih

/-- **What is written for parameters spells them.** -/
lemma spells_serialize (pairs : List (String × String)) : Spells pairs (serialize pairs) :=
  ⟨_, spellsPieces_map_encodePair pairs, rfl⟩

/-- An escaped percent sign before a spelling spells a percent sign before what that spells. -/
lemma spellsText_percent {text : String} {written : Bytes}
    (spells : SpellsText .value text written) :
    SpellsText .value ("%" ++ text) (0x25 :: 0x32 :: 0x35 :: written) := by
  obtain ⟨pieces, spells, rfl⟩ := spells
  refine ⟨[0x25, 0x32, 0x35] :: pieces, ?_, rfl⟩
  have encode_eq : Utf8.encode ("%" ++ text) = 0x25 :: Utf8.encode text := by
    unfold Utf8.encode
    rw [String.toList_append, List.flatMap_append]
    rfl
  rw [encode_eq]
  exact .cons (.escape (.inl rfl) (.inl rfl)) spells

end Form

namespace Params

/-- **Parameters are read back from their written form**, in their order. -/
lemma parse_serialize (pairs : List (String × String)) : parse (Form.serialize pairs) = ⟨pairs⟩ :=
  parse_of_spells (Form.spells_serialize pairs)

/-- **Reading undoes every spelling.** However parameters are spelled, exactly they are read, in
their order and with all repetitions, and a lookup finds the value of the first one of its name. The
form in which parameters are written is such a spelling. An escape is read once: a percent sign that
is escaped starts no escape of its own, whatever stands behind it. -/
theorem parse_undoes_spelling :
    (∀ pairs written, Form.Spells pairs written →
      parse written = ⟨pairs⟩ ∧
        ∀ name, (parse written).get? name = (pairs.find? (·.1 = name)).map Prod.snd) ∧
    (∀ pairs, Form.Spells pairs (Form.serialize pairs) ∧ parse (Form.serialize pairs) = ⟨pairs⟩) ∧
    (∀ text written, Form.SpellsText .value text written →
      parse (0x3D :: 0x25 :: 0x32 :: 0x35 :: written) = ⟨[("", "%" ++ text)]⟩) := by
  refine ⟨fun pairs written spells => ?_,
    fun pairs => ⟨Form.spells_serialize pairs, parse_serialize pairs⟩,
    fun text written spells => ?_⟩
  · have read := parse_of_spells spells
    rw [read]
    exact ⟨rfl, get?_eq_find? ⟨pairs⟩⟩
  · have spellsPair : Form.SpellsPair ("", "%" ++ text) (0x3D :: 0x25 :: 0x32 :: 0x35 :: written) :=
      .full ⟨[], .nil, rfl⟩ (Form.spellsText_percent spells)
    exact parse_of_spellsPair spellsPair

/-- A name with an escaped equals sign, once with a value that looks like an escape and once without
one, between more ampersands than are needed; the last piece has neither a name nor a value. -/
theorem parse_undoes_spelling_of_marks :
    let pairs := [("=", "%41 =ä"), ("=", ""), ("", "")]
    let written := [0x26, 0x25, 0x33, 0x64, 0x3D, 0x25, 0x32, 0x35, 0x34, 0x31, 0x2B, 0x3D, 0xC3,
      0x25, 0x61, 0x34, 0x26, 0x26, 0x25, 0x33, 0x44, 0x26, 0x3D]
    Form.Spells pairs written ∧ parse written = ⟨pairs⟩ ∧
      (parse written).get? "=" = some "%41 =ä" := by
  intro pairs written
  have escaped : ∀ equals ∈ [[0x25, 0x33, 0x64], [0x25, 0x33, 0x44]],
      Form.SpellsText .name "=" equals := by
    intro equals among
    simp only [List.mem_cons, List.not_mem_nil, or_false] at among
    rcases among with rfl | rfl
    · exact ⟨[[0x25, 0x33, 0x64]], .cons (.escape (.inl rfl) (.inr rfl)) .nil, rfl⟩
    · exact ⟨[[0x25, 0x33, 0x44]], .cons (.escape (.inl rfl) (.inl rfl)) .nil, rfl⟩
  have value : Form.SpellsText .value "%41 =ä"
      [0x25, 0x32, 0x35, 0x34, 0x31, 0x2B, 0x3D, 0xC3, 0x25, 0x61, 0x34] := by
    refine ⟨[[0x25, 0x32, 0x35], [0x34], [0x31], [0x2B], [0x3D], [0xC3], [0x25, 0x61, 0x34]],
      ?_, rfl⟩
    have itself : ∀ byte ∈ [0x34, 0x31, 0x3D, 0xC3], Form.SpellsByte .value byte [byte] := by
      intro byte among
      simp only [List.mem_cons, List.not_mem_nil, or_false] at among
      rcases among with rfl | rfl | rfl | rfl <;>
        exact .plain (by decide) (by decide) (by decide) nofun
    exact .cons (.escape (.inl rfl) (.inl rfl)) <| .cons (itself _ (by decide)) <|
      .cons (itself _ (by decide)) <| .cons (.plus rfl) <| .cons (itself _ (by decide)) <|
      .cons (itself _ (by decide)) <| .cons (.escape (.inr rfl) (.inl rfl)) .nil
  have spells : Form.Spells pairs written :=
    ⟨[[], _, [], [0x25, 0x33, 0x44], [0x3D]],
      .gap <| .pair (.full (escaped [0x25, 0x33, 0x64] (by decide)) value) <| .gap <|
        .pair (.bare (escaped [0x25, 0x33, 0x44] (by decide)) (by decide) rfl) <|
        .pair (.full ⟨[], .nil, rfl⟩ ⟨[], .nil, rfl⟩) .nil, rfl⟩
  obtain ⟨read, found⟩ := parse_undoes_spelling.1 pairs written spells
  exact ⟨spells, read, found "="⟩

end Params
end AppCatalog
