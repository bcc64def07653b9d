import Mathlib.Data.List.Forall2
import Mathlib.Tactic.Lemma
import AppCatalog.Json

/-!
# The grammar of JSON

The texts of JSON as the standard defines them, each with the value that it spells. This is all of
JSON, not only what is written here: there may be blanks between the marks, numbers, literal names,
and any character of a text may be escaped in each of its ways.

* **A value** (`Json.Value`) keeps the order of members, also of those with the same name, and a
  number as it is spelled.
* **A character of a text** (`Json.SpellsChar`) stands as it is or is escaped by a letter, by its
  code unit, or by the two halves of a pair of code units.
* **Phrases** (`Json.Spells`) are the values, items and members that a text is made of; a text is a
  value with blanks around it (`Json.IsText`).
* **What is written is spelled so** (`Json.spells_characters`), whatever the value.
-/

namespace AppCatalog.Json

open Text

/-! ## Values -/

/-- What a text of JSON spells. -/
inductive Value where
  | null
  | bool (value : Bool)
  /-- A number as it is spelled. -/
  | number (lexeme : List Char)
  | text (value : String)
  | array (items : List Value)
  /-- Members in their order; names may repeat. -/
  | object (members : List (String × Value))

/-! ## Blanks -/

/-- Whether a character is a blank. -/
def isBlank (c : Char) : Bool :=
  c ∈ [' ', '\t', '\n', '\r']

/-- Whether there are only blanks. -/
def AreBlanks (s : List Char) : Prop := ∀ c ∈ s, isBlank c = true

/-! ## Numbers and names -/

/-- How far a number is spelled. -/
inductive NumberState where
  | start
  /-- Behind the sign. -/
  | minus
  /-- Behind a zero, which no digit may follow. -/
  | zero
  /-- Behind a digit before the point. -/
  | whole
  /-- Behind the point. -/
  | point
  /-- Behind a digit after the point. -/
  | fraction
  /-- Behind the letter that starts the exponent. -/
  | mark
  /-- Behind the sign of the exponent. -/
  | sign
  /-- Behind a digit of the exponent. -/
  | exponent
  deriving Repr, DecidableEq

namespace NumberState

/-- What may follow the digits before the point. -/
def afterWhole (c : Char) : Option NumberState :=
  if c = '.' then some point else if c = 'e' ∨ c = 'E' then some mark else none

/-- The state behind one more character, if that may follow. -/
def read (state : NumberState) (c : Char) : Option NumberState :=
  match state with
  | start => if c = '-' then some minus else if c = '0' then some zero
    else if c.isDigit then some whole else none
  | minus => if c = '0' then some zero else if c.isDigit then some whole else none
  | zero => afterWhole c
  | whole => if c.isDigit then some whole else afterWhole c
  | point => if c.isDigit then some fraction else none
  | fraction => if c.isDigit then some fraction
    else if c = 'e' ∨ c = 'E' then some mark else none
  | mark => if c = '+' ∨ c = '-' then some sign else if c.isDigit then some exponent else none
  | sign | exponent => if c.isDigit then some exponent else none

/-- Whether a number may end here. -/
def isLast (state : NumberState) : Bool :=
  state ∈ [zero, whole, fraction, exponent]

end NumberState

/-- Whether characters spell a number. -/
def isNumber (lexeme : List Char) : Bool :=
  (lexeme.foldlM NumberState.read .start).any NumberState.isLast

/-- Whether a word spells a value: a number or one of the three names. -/
inductive SpellsWord : Value → List Char → Prop
  | null : SpellsWord .null ['n', 'u', 'l', 'l']
  | true : SpellsWord (.bool true) ['t', 'r', 'u', 'e']
  | false : SpellsWord (.bool false) ['f', 'a', 'l', 's', 'e']
  | number {lexeme : List Char} (valid : isNumber lexeme = .true) :
    SpellsWord (.number lexeme) lexeme

/-! ## Texts -/

/-- The letters of escapes, each with its character. -/
def escapeLetters : List (Char × Char) :=
  [('"', '"'), ('\\', '\\'), ('/', '/'), ('b', '\x08'), ('f', '\x0c'), ('n', '\n'), ('r', '\r'),
    ('t', '\t')]

/-- The code unit that hexadecimal digits stand for. -/
def unitOf? (digits : List Char) : Option Nat :=
  (digits.mapM fun digit => digit? 16 digit.toNat).map (ofDigits 16)

/-- Whether a code unit is the first half of a pair. -/
def isHigh (unit : Nat) : Bool := 0xD800 ≤ unit && unit < 0xDC00

/-- Whether a code unit is the second half of a pair. -/
def isLow (unit : Nat) : Bool := 0xDC00 ≤ unit && unit < 0xE000

/-- The code point of a pair. -/
def joined (high low : Nat) : Nat := 0x10000 + (high - 0xD800) * 0x400 + (low - 0xDC00)

/-- Whether characters spell a character of a text. A half without its other half spells nothing. -/
inductive SpellsChar (c : Char) : List Char → Prop
  /-- As it is. -/
  | plain (notQuote : c ≠ '"') (notBackslash : c ≠ '\\') (notControl : 0x20 ≤ c.toNat) :
    SpellsChar c [c]
  /-- By a letter. -/
  | letter {letter : Char} (known : (letter, c) ∈ escapeLetters) : SpellsChar c ['\\', letter]
  /-- By its code unit. -/
  | unit {digits : List Char} (four : digits.length = 4)
      (read : unitOf? digits = some c.toNat) : SpellsChar c ('\\' :: 'u' :: digits)
  /-- By the two code units of its pair. -/
  | pair {digits digits' : List Char} {high low : Nat} (four : digits.length = 4)
      (four' : digits'.length = 4) (read : unitOf? digits = some high)
      (read' : unitOf? digits' = some low) (isHigh : isHigh high = true)
      (isLow : isLow low = true) (value_eq : c.toNat = joined high low) :
    SpellsChar c ('\\' :: 'u' :: (digits ++ '\\' :: 'u' :: digits'))

/-- Whether characters spell a text between quotation marks. -/
def SpellsText (text : String) (written : List Char) : Prop :=
  ∃ pieces, List.Forall₂ SpellsChar text.toList pieces ∧
    written = '"' :: (pieces.flatten ++ ['"'])

/-! ## Phrases -/

/-- What a part of a text may spell. -/
inductive Phrase where
  | value (value : Value)
  /-- A value and the blanks around it. -/
  | padded (value : Value)
  /-- At least one item of an array. -/
  | items (items : List Value)
  | member (member : String × Value)
  /-- At least one member of an object. -/
  | members (members : List (String × Value))

/-- Whether characters spell a phrase. -/
inductive Spells : Phrase → List Char → Prop
  | word {value : Value} {s : List Char} (spells : SpellsWord value s) : Spells (.value value) s
  | text {value : String} {s : List Char} (spells : SpellsText value s) :
    Spells (.value (.text value)) s
  | emptyArray {blanks : List Char} (areBlanks : AreBlanks blanks) :
    Spells (.value (.array [])) ('[' :: (blanks ++ [']']))
  | array {items : List Value} {s : List Char} (spells : Spells (.items items) s) :
    Spells (.value (.array items)) ('[' :: (s ++ [']']))
  | emptyObject {blanks : List Char} (areBlanks : AreBlanks blanks) :
    Spells (.value (.object [])) ('\x7b' :: (blanks ++ ['\x7d']))
  | object {members : List (String × Value)} {s : List Char}
      (spells : Spells (.members members) s) :
    Spells (.value (.object members)) ('\x7b' :: (s ++ ['\x7d']))
  | padded {value : Value} {before s after : List Char} (areBlanks : AreBlanks before)
      (spells : Spells (.value value) s) (areBlanks' : AreBlanks after) :
    Spells (.padded value) (before ++ (s ++ after))
  | lastItem {value : Value} {s : List Char} (spells : Spells (.padded value) s) :
    Spells (.items [value]) s
  | item {value : Value} {items : List Value} {s more : List Char}
      (spells : Spells (.padded value) s) (behind : Spells (.items items) more) :
    Spells (.items (value :: items)) (s ++ ',' :: more)
  | member {name : String} {value : Value} {before written after s : List Char}
      (areBlanks : AreBlanks before) (spellsName : SpellsText name written)
      (areBlanks' : AreBlanks after) (spells : Spells (.padded value) s) :
    Spells (.member (name, value)) (before ++ (written ++ (after ++ ':' :: s)))
  | lastMember {member : String × Value} {s : List Char} (spells : Spells (.member member) s) :
    Spells (.members [member]) s
  | oneMember {member : String × Value} {members : List (String × Value)} {s more : List Char}
      (spells : Spells (.member member) s) (behind : Spells (.members members) more) :
    Spells (.members (member :: members)) (s ++ ',' :: more)

/-- Whether a text is a text of JSON and spells a value. -/
def IsText (value : Value) (text : String) : Prop :=
  Spells (.padded value) text.toList

/-! ## What is written -/

mutual

/-- The value that is written. -/
def value : Json → Value
  | text value => .text value
  | array items => .array (itemValues items)
  | object members => .object (memberValues members)

/-- The values of the items of an array. -/
def itemValues : List Json → List Value
  | [] => []
  | item :: items => item.value :: itemValues items

/-- The values of the members of an object. -/
def memberValues : List (String × Json) → List (String × Value)
  | [] => []
  | (name, item) :: members => (name, item.value) :: memberValues members

end

/-- The code unit of a control is spelled by four digits. -/
lemma unitOf?_control : ∀ n < 0x20, unitOf? ['0', '0', Char.ofNat (lowerDigit (n / 16)),
    Char.ofNat (lowerDigit (n % 16))] = some n := by
  decide

/-- What is written for a character spells it. -/
lemma spellsChar_escape (c : Char) : SpellsChar c (escape c) := by
  have of_toNat : ∀ d : Char, c.toNat = d.toNat → c = d := fun d => Char.toNat_inj.1
  unfold escape
  split_ifs with quote backslash isB isT isN isF isR control
  · exact .letter (by rw [quote]; decide)
  · exact .letter (by rw [backslash]; decide)
  · exact .letter (by rw [of_toNat '\x08' isB]; decide)
  · exact .letter (by rw [of_toNat '\t' isT]; decide)
  · exact .letter (by rw [of_toNat '\n' isN]; decide)
  · exact .letter (by rw [of_toNat '\x0c' isF]; decide)
  · exact .letter (by rw [of_toNat '\r' isR]; decide)
  · exact .unit rfl (unitOf?_control c.toNat control)
  · exact .plain quote backslash (Nat.not_lt.mp control)

/-- What is written for a text spells it. -/
lemma spellsText_quoted (text : String) : SpellsText text (quoted text) := by
  refine ⟨text.toList.map escape, ?_, ?_⟩
  · rw [List.forall₂_map_right_iff, List.forall₂_same]
    exact fun c _ => spellsChar_escape c
  · unfold quoted
    rw [List.flatMap_def]
    rfl

/-- There are no blanks in nothing. -/
lemma areBlanks_nil : AreBlanks [] := nofun

/-- A value is padded with no blanks. -/
lemma Spells.bare {value : Value} {s : List Char} (spells : Spells (.value value) s) :
    Spells (.padded value) s := by
  have padded := Spells.padded areBlanks_nil spells areBlanks_nil
  rwa [List.append_nil] at padded

/-- A member is spelled with no blanks by its quoted name, a colon and its value. -/
lemma Spells.written (name : String) {value : Value} {s : List Char}
    (spells : Spells (.value value) s) : Spells (.member (name, value)) (quoted name ++ ':' :: s) :=
  .member areBlanks_nil (spellsText_quoted name) areBlanks_nil spells.bare

mutual

/-- **What is written for a value spells it.** -/
lemma spells_characters : (json : Json) → Spells (.value json.value) json.characters
  | text value => by
      unfold characters Json.value
      exact .text (spellsText_quoted value)
  | array items => by
      unfold characters Json.value
      by_cases empty : items = []
      · rw [empty]
        exact .emptyArray areBlanks_nil
      · exact .array (spells_itemCharacters items empty)
  | object members => by
      unfold characters Json.value
      by_cases empty : members = []
      · rw [empty]
        exact .emptyObject areBlanks_nil
      · exact .object (spells_memberCharacters members empty)

/-- What is written for the items of an array spells them. -/
lemma spells_itemCharacters : (items : List Json) → items ≠ [] →
    Spells (.items (itemValues items)) ([','].intercalate (itemCharacters items))
  | [], notEmpty => absurd rfl notEmpty
  | [item], _ => by
      unfold itemCharacters itemValues itemCharacters itemValues
      rw [List.intercalate_singleton]
      exact .lastItem (spells_characters item).bare
  | item :: next :: items, _ => by
      have behind := spells_itemCharacters (next :: items) nofun
      unfold itemCharacters itemValues
      unfold itemCharacters at behind ⊢
      rw [List.intercalate_cons_cons, List.append_assoc, List.singleton_append]
      exact .item (spells_characters item).bare behind

/-- What is written for the members of an object spells them. -/
lemma spells_memberCharacters : (members : List (String × Json)) → members ≠ [] →
    Spells (.members (memberValues members)) ([','].intercalate (memberCharacters members))
  | [], notEmpty => absurd rfl notEmpty
  | [(name, value)], _ => by
      unfold memberCharacters memberValues memberCharacters memberValues
      rw [List.intercalate_singleton]
      exact .lastMember (.written name (spells_characters value))
  | (name, value) :: (name', value') :: members, _ => by
      have behind := spells_memberCharacters ((name', value') :: members) nofun
      unfold memberCharacters memberValues
      unfold memberCharacters at behind ⊢
      rw [List.intercalate_cons_cons, List.append_assoc, List.singleton_append]
      exact .oneMember (.written name (spells_characters value)) behind

end

/-- What is written for a value is a text of JSON. -/
lemma isText_render (json : Json) : IsText json.value json.render := by
  unfold IsText render
  rw [String.toList_ofList]
  exact (spells_characters json).bare

/-- The values of items are those of each. -/
lemma itemValues_eq_map (items : List Json) : itemValues items = items.map value := by
  induction items with
  | nil => rfl
  | cons item items ih => rw [itemValues, ih, List.map_cons]

end AppCatalog.Json
