import Mathlib.Data.List.Forall2
import Mathlib.Data.List.TakeWhile
import Mathlib.Tactic.Lemma
import AppCatalog.Proofs.Form.Joining
import AppCatalog.Proofs.Text.Utf8

/-!
# Spelling form parameters

How parameters may be spelled in the `application/x-www-form-urlencoded` format, and that each
spelling is read as what it spells.

* **A byte** (`Form.SpellsByte`) stands for itself, is escaped by two hexadecimal digits of either
  case, or is a space and spelled as a plus sign. Each spelling is read as that byte
  (`Form.decodeBytes_of_spells`), whatever follows.
* **A text** (`Form.SpellsText`) is spelled byte by byte, as a name or as a value; only a value may
  have an equals sign that stands for itself.
* **A parameter** (`Form.SpellsPair`) is spelled as a name, an equals sign and a value, or as a name
  alone.
* **Parameters** (`Form.Spells`) are spelled with ampersands between them, and any number of them
  more. They are read back in their order (`Params.parse_of_spells`).
-/

namespace AppCatalog

open Text

namespace Form

/-! ## Bytes -/

/-- The two parts of a parameter. -/
inductive Role where
  | name
  | value
  deriving Repr, DecidableEq

/-- Whether a byte is the hexadecimal digit of a value, in either case. -/
def IsHexDigit (value : Nat) (digit : UInt8) : Prop :=
  digit = (upperDigit value).toUInt8 ∨ digit = (lowerDigit value).toUInt8

/-- Whether bytes spell a byte of a name or of a value. -/
inductive SpellsByte (role : Role) (byte : UInt8) : Bytes → Prop
  /-- It stands for itself: it ends no piece, no name that it is in, and starts no escape. -/
  | plain (notAmpersand : byte ≠ 0x26) (notPlus : byte ≠ 0x2B) (notPercent : byte ≠ 0x25)
      (notEquals : role = .name → byte ≠ 0x3D) : SpellsByte role byte [byte]
  /-- By a percent sign and two digits. -/
  | escape {high low : UInt8} (high_spells : IsHexDigit (byte.toNat / 16) high)
      (low_spells : IsHexDigit (byte.toNat % 16) low) : SpellsByte role byte [0x25, high, low]
  /-- By a plus sign. -/
  | plus (isSpace : byte = 0x20) : SpellsByte role byte [0x2B]

/-- A digit of either case is read as its value, and has no meaning of its own in the format. -/
lemma of_isHexDigit {value : Nat} (small : value < 16) {digit : UInt8}
    (spells : IsHexDigit value digit) :
    digit? 16 digit.toNat = some value ∧ digit ≠ 0x26 ∧ digit ≠ 0x2B ∧ digit ≠ 0x3D := by
  have upper : ∀ value < 16, digit? 16 (upperDigit value).toUInt8.toNat = some value ∧
      (upperDigit value).toUInt8 ≠ 0x26 ∧ (upperDigit value).toUInt8 ≠ 0x2B ∧
      (upperDigit value).toUInt8 ≠ 0x3D := by
    decide
  have lower : ∀ value < 16, digit? 16 (lowerDigit value).toUInt8.toNat = some value ∧
      (lowerDigit value).toUInt8 ≠ 0x26 ∧ (lowerDigit value).toUInt8 ≠ 0x2B ∧
      (lowerDigit value).toUInt8 ≠ 0x3D := by
    decide
  rcases spells with rfl | rfl
  · exact upper value small
  · exact lower value small

variable {role : Role} {byte : UInt8} {piece : Bytes}

/-- Reading a byte that is neither a percent nor a plus sign. -/
lemma decodeBytes_of_ne (notPercent : byte ≠ 0x25) (notPlus : byte ≠ 0x2B) (rest : Bytes) :
    decodeBytes (byte :: rest) = byte :: decodeBytes rest := by
  unfold decodeBytes plusToSpace
  rw [List.map_cons, if_neg notPlus]
  exact percentDecode_of_step (escapeStep_of_ne notPercent _)

/-- **A byte is read from each of its spellings**, whatever follows. -/
lemma decodeBytes_of_spellsByte (spells : SpellsByte role byte piece) (rest : Bytes) :
    decodeBytes (piece ++ rest) = byte :: decodeBytes rest := by
  have small := byte.toNat_lt
  cases spells with
  | plain _ notPlus notPercent _ => exact decodeBytes_of_ne notPercent notPlus rest
  | @escape high low high_spells low_spells =>
      obtain ⟨high_eq, -, high_ne, -⟩ := of_isHexDigit (by omega) high_spells
      obtain ⟨low_eq, -, low_ne, -⟩ := of_isHexDigit (by omega) low_spells
      have value_eq : byte.toNat / 16 * 16 + byte.toNat % 16 = byte.toNat := by omega
      show decodeBytes (0x25 :: high :: low :: rest) = _
      unfold decodeBytes plusToSpace
      rw [List.map_cons, List.map_cons, List.map_cons, if_neg (by decide), if_neg high_ne,
        if_neg low_ne]
      refine percentDecode_of_step ?_
      rw [escapeStep, high_eq, low_eq]
      dsimp only
      rw [value_eq]
      exact congrArg (fun byte => some (byte, _)) UInt8.ofNat_toNat
  | plus isSpace =>
      show decodeBytes (0x2B :: rest) = _
      unfold decodeBytes plusToSpace
      rw [List.map_cons, if_pos rfl, isSpace]
      exact percentDecode_of_step (escapeStep_of_ne (by decide) _)

/-- A spelling of a byte has no ampersand, and in a name no equals sign. -/
lemma notMem_of_spellsByte (spells : SpellsByte role byte piece) :
    0x26 ∉ piece ∧ (role = .name → 0x3D ∉ piece) := by
  have small := byte.toNat_lt
  cases spells with
  | plain notAmpersand _ _ notEquals =>
      rw [List.mem_singleton]
      exact ⟨notAmpersand.symm, fun isName => by
        rw [List.mem_singleton]
        exact (notEquals isName).symm⟩
  | escape high_spells low_spells =>
      obtain ⟨-, high_ne, -, high_ne'⟩ := of_isHexDigit (by omega) high_spells
      obtain ⟨-, low_ne, -, low_ne'⟩ := of_isHexDigit (by omega) low_spells
      simp [high_ne.symm, high_ne'.symm, low_ne.symm, low_ne'.symm]
  | plus _ => exact ⟨by decide, fun _ => by decide⟩

/-! ## Texts -/

/-- Whether bytes spell a text as a name or as a value. -/
def SpellsText (role : Role) (text : String) (written : Bytes) : Prop :=
  ∃ pieces, List.Forall₂ (SpellsByte role) (Utf8.encode text) pieces ∧ written = pieces.flatten

variable {text : String} {written : Bytes}

/-- Bytes are read from the spellings of each of them. -/
lemma decodeBytes_flatten {bytes : Bytes} {pieces : List Bytes}
    (spells : List.Forall₂ (SpellsByte role) bytes pieces) :
    decodeBytes pieces.flatten = bytes := by
  induction spells with
  | nil => rfl
  | cons spells _ ih => rw [List.flatten_cons, decodeBytes_of_spellsByte spells, ih]

/-- **A text is read from each of its spellings.** -/
lemma decodeText_of_spells (spells : SpellsText role text written) : decodeText written = text := by
  obtain ⟨pieces, spells, rfl⟩ := spells
  unfold decodeText
  rw [decodeBytes_flatten spells, Utf8.decodeLossy_encode]

/-- Spellings of bytes have no ampersand, and in a name no equals sign. -/
lemma notMem_flatten {bytes : Bytes} {pieces : List Bytes}
    (spells : List.Forall₂ (SpellsByte role) bytes pieces) :
    0x26 ∉ pieces.flatten ∧ (role = .name → 0x3D ∉ pieces.flatten) := by
  induction spells with
  | nil => exact ⟨List.not_mem_nil, fun _ => List.not_mem_nil⟩
  | cons spells _ ih =>
      obtain ⟨here, here'⟩ := notMem_of_spellsByte spells
      obtain ⟨behind, behind'⟩ := ih
      rw [List.flatten_cons]
      exact ⟨List.not_mem_append here behind,
        fun isName => List.not_mem_append (here' isName) (behind' isName)⟩

/-- A spelling of a text has no ampersand, and in a name no equals sign. -/
lemma notMem_of_spellsText (spells : SpellsText role text written) :
    0x26 ∉ written ∧ (role = .name → 0x3D ∉ written) := by
  obtain ⟨pieces, spells, rfl⟩ := spells
  exact notMem_flatten spells

/-- Only the empty text is spelled by nothing. -/
lemma ne_nil_of_spellsText (spells : SpellsText role text written) (notEmpty : text ≠ "") :
    written ≠ [] := by
  rintro rfl
  exact notEmpty (decodeText_of_spells spells).symm

/-! ## Parameters -/

/-- Whether bytes spell a parameter. -/
inductive SpellsPair (pair : String × String) : Bytes → Prop
  /-- As a name and a value. -/
  | full {name value : Bytes} (spellsName : SpellsText .name pair.1 name)
      (spellsValue : SpellsText .value pair.2 value) : SpellsPair pair (name ++ 0x3D :: value)
  /-- As a name alone, if there is one and no value. -/
  | bare {name : Bytes} (spellsName : SpellsText .name pair.1 name) (named : pair.1 ≠ "")
      (noValue : pair.2 = "") : SpellsPair pair name

/-- Whether pieces spell parameters in their order, with empty ones anywhere between them. -/
inductive SpellsPieces : List (String × String) → List Bytes → Prop
  | nil : SpellsPieces [] []
  | gap {pairs : List (String × String)} {pieces : List Bytes}
      (spells : SpellsPieces pairs pieces) : SpellsPieces pairs ([] :: pieces)
  | pair {pair : String × String} {pairs : List (String × String)} {piece : Bytes}
      {pieces : List Bytes} (here : SpellsPair pair piece) (spells : SpellsPieces pairs pieces) :
      SpellsPieces (pair :: pairs) (piece :: pieces)

/-- Whether bytes spell parameters. -/
def Spells (pairs : List (String × String)) (written : Bytes) : Prop :=
  ∃ pieces, SpellsPieces pairs pieces ∧ written = [0x26].intercalate pieces

/-- No byte of a name is an equals sign. -/
lemma all_ne_equals {name : Bytes} (noEquals : 0x3D ∉ name) :
    ∀ byte ∈ name, (byte != 0x3D) = true := by
  intro byte among
  rw [bne_iff_ne]
  rintro rfl
  exact noEquals among

/-- The name of a piece ends at its equals sign, and its value starts behind it. -/
lemma split_equals {name : Bytes} (noEquals : 0x3D ∉ name) (value : Bytes) :
    nameOf (name ++ 0x3D :: value) = name ∧ valueOf (name ++ 0x3D :: value) = value := by
  have inName := all_ne_equals noEquals
  unfold nameOf valueOf
  rw [List.takeWhile_append_of_pos inName, List.dropWhile_append_of_pos inName,
    List.takeWhile_cons_of_neg (by decide), List.dropWhile_cons_of_neg (by decide)]
  exact ⟨List.append_nil name, rfl⟩

/-- A piece without an equals sign is all name. -/
lemma split_bare {name : Bytes} (noEquals : 0x3D ∉ name) :
    nameOf name = name ∧ valueOf name = [] := by
  have inName := all_ne_equals noEquals
  unfold nameOf valueOf
  rw [List.takeWhile_eq_self_iff.mpr inName, List.dropWhile_eq_nil_iff.mpr inName]
  exact ⟨rfl, rfl⟩

end Form

namespace Params

open Form

/-- **A parameter is read from each of its spellings.** -/
lemma parse_of_spellsPair {pair : String × String} {piece : Bytes}
    (spells : SpellsPair pair piece) : parse piece = ⟨[pair]⟩ := by
  cases spells with
  | @full name value spellsName spellsValue =>
      obtain ⟨noAmpersand, noEquals⟩ := notMem_of_spellsText spellsName
      obtain ⟨noAmpersand', -⟩ := notMem_of_spellsText spellsValue
      obtain ⟨name_eq, value_eq⟩ := split_equals (noEquals rfl) value
      have single : 0x26 ∉ name ++ 0x3D :: value :=
        List.not_mem_append noAmpersand
          (List.not_mem_cons_of_ne_of_not_mem (by decide) noAmpersand')
      unfold parse
      rw [pieces_of_notMem single (by simp), List.map_singleton, name_eq, value_eq,
        decodeText_of_spells spellsName, decodeText_of_spells spellsValue]
  | bare spellsName named noValue =>
      obtain ⟨name, value⟩ := pair
      cases noValue
      obtain ⟨noAmpersand, noEquals⟩ := notMem_of_spellsText spellsName
      obtain ⟨name_eq, value_eq⟩ := split_bare (noEquals rfl)
      have notEmpty : piece ≠ [] := ne_nil_of_spellsText spellsName named
      unfold parse
      rw [pieces_of_notMem noAmpersand notEmpty, List.map_singleton, name_eq, value_eq,
        decodeText_of_spells spellsName]
      rfl

/-- **Parameters are read from each of their spellings**, in their order. -/
lemma parse_of_spells {pairs : List (String × String)} {written : Bytes}
    (spells : Spells pairs written) : parse written = ⟨pairs⟩ := by
  obtain ⟨pieces, spells, rfl⟩ := spells
  rw [parse_intercalate]
  induction spells with
  | nil => rfl
  | gap spells ih => rw [List.map_cons, List.foldl_cons, empty_chain, parse_nil, ih]
  | @pair pair pairs piece pieces here spells ih =>
      rw [List.map_cons, List.foldl_cons, empty_chain, foldl_chain, parse_of_spellsPair here, ih]
      rfl

end Params
end AppCatalog
