import AppCatalog.Proofs.Form.Spelling
import AppCatalog.Proofs.Text.Damage

/-!
# Damaged names and values

A name or a value may be spelled from bytes that are no text. It is then read leniently, and this
file says that parameters are read no worse than the bytes that they are spelled from.

* **Any bytes are spelled** (`Form.SpellsBytes`) as a text is, byte by byte. To escape each of them
  is one way (`Form.spellsBytes_escape`).
* **What is read of them** (`Params.textOf`) is the same however they are spelled, as a value and as
  a name (`Params.parse_of_spellsValue`, `Params.parse_of_spellsName`).
* **Damage stays apart** in it (`Params.damage_stays_apart`).
-/

namespace AppCatalog

open Text

namespace Form

variable {role : Role} {bytes written : Bytes}

/-- Whether bytes spell other bytes as a name or as a value. -/
def SpellsBytes (role : Role) (bytes written : Bytes) : Prop :=
  ∃ pieces, List.Forall₂ (SpellsByte role) bytes pieces ∧ written = pieces.flatten

/-- The escape of a byte. -/
def escapeByte (byte : UInt8) : Bytes :=
  [0x25, (upperDigit (byte.toNat / 16)).toUInt8, (upperDigit (byte.toNat % 16)).toUInt8]

/-- The spelling of bytes in which each of them is escaped. -/
def escape (bytes : Bytes) : Bytes := bytes.flatMap escapeByte

/-- To escape each byte is one way to spell bytes. -/
lemma spellsBytes_escape (role : Role) (bytes : Bytes) : SpellsBytes role bytes (escape bytes) := by
  refine ⟨bytes.map escapeByte, ?_, List.flatMap_def⟩
  rw [List.forall₂_map_right_iff, List.forall₂_same]
  exact fun byte _ => .escape (.inl rfl) (.inl rfl)

/-- What is read of bytes does not depend on how they are spelled. -/
lemma decodeText_of_spellsBytes (spells : SpellsBytes role bytes written) :
    decodeText written = Utf8.decodeLossy bytes := by
  obtain ⟨pieces, spells, rfl⟩ := spells
  unfold decodeText
  rw [decodeBytes_flatten spells]

/-- A spelling of bytes has no ampersand, and in a name no equals sign. -/
lemma notMem_of_spellsBytes (spells : SpellsBytes role bytes written) :
    0x26 ∉ written ∧ (role = .name → 0x3D ∉ written) := by
  obtain ⟨pieces, spells, rfl⟩ := spells
  exact notMem_flatten spells

end Form

namespace Params

open Form

variable {name value bytes written : Bytes}

/-- The text that is read of bytes: the value of a parameter whose value is their escapes. -/
def textOf (bytes : Bytes) : String :=
  (parse (0x3D :: escape bytes)).getOrEmpty ""

/-- A name, an equals sign and a value are one parameter. -/
lemma parse_of_notMem (noAmpersand : 0x26 ∉ name) (noEquals : 0x3D ∉ name)
    (noAmpersand' : 0x26 ∉ value) :
    parse (name ++ 0x3D :: value) = ⟨[(decodeText name, decodeText value)]⟩ := by
  obtain ⟨name_eq, value_eq⟩ := split_equals noEquals value
  have single : 0x26 ∉ name ++ 0x3D :: value :=
    List.not_mem_append noAmpersand (List.not_mem_cons_of_ne_of_not_mem (by decide) noAmpersand')
  unfold parse
  rw [pieces_of_notMem single (by simp), List.map_singleton, name_eq, value_eq]

/-- The text that is read of bytes is their lenient reading. -/
lemma textOf_eq (bytes : Bytes) : textOf bytes = Utf8.decodeLossy bytes := by
  have spells := spellsBytes_escape .value bytes
  have parsed : parse (0x3D :: escape bytes) = ⟨[("", Utf8.decodeLossy bytes)]⟩ := by
    rw [← decodeText_of_spellsBytes spells]
    exact parse_of_notMem List.not_mem_nil List.not_mem_nil (notMem_of_spellsBytes spells).1
  unfold textOf
  rw [parsed]
  rfl

/-- **A value** is read as the text of the bytes that it spells. -/
lemma parse_of_spellsValue (noAmpersand : 0x26 ∉ name) (noEquals : 0x3D ∉ name)
    (spells : SpellsBytes .value bytes written) :
    parse (name ++ 0x3D :: written) = ⟨[(decodeText name, textOf bytes)]⟩ := by
  rw [parse_of_notMem noAmpersand noEquals (notMem_of_spellsBytes spells).1,
    decodeText_of_spellsBytes spells, textOf_eq]

/-- **A name** is read as the text of the bytes that it spells. -/
lemma parse_of_spellsName (noAmpersand : 0x26 ∉ value) (spells : SpellsBytes .name bytes written) :
    parse (written ++ 0x3D :: value) = ⟨[(textOf bytes, decodeText value)]⟩ := by
  obtain ⟨noAmpersand', noEquals⟩ := notMem_of_spellsBytes spells
  rw [parse_of_notMem noAmpersand' (noEquals rfl) noAmpersand, decodeText_of_spellsBytes spells,
    textOf_eq]

/-- **Damage stays apart** in parameters: what a value or a name is read as depends only on the
bytes that it spells, and what is no text among these damages only itself. -/
theorem damage_stays_apart :
    (∀ name bytes written, 0x26 ∉ name → 0x3D ∉ name → SpellsBytes .value bytes written →
      parse (name ++ 0x3D :: written) = ⟨[(decodeText name, textOf bytes)]⟩) ∧
    (∀ bytes written value, 0x26 ∉ value → SpellsBytes .name bytes written →
      parse (written ++ 0x3D :: value) = ⟨[(textOf bytes, decodeText value)]⟩) ∧
    (∀ role bytes, SpellsBytes role bytes (escape bytes)) ∧
    Utf8.DamageStaysApart textOf := by
  have textOf_lenient : textOf = Utf8.decodeLossy := funext textOf_eq
  refine ⟨fun name bytes written noAmpersand noEquals spells => ?_,
    fun bytes written value noAmpersand spells => ?_, spellsBytes_escape, ?_⟩
  · exact parse_of_spellsValue noAmpersand noEquals spells
  · exact parse_of_spellsName noAmpersand spells
  · rw [textOf_lenient]
    exact Utf8.damageStaysApart_decodeLossy

end Params
end AppCatalog
