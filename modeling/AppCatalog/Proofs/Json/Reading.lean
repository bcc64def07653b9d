import Mathlib.Data.List.TakeWhile
import Mathlib.Tactic.SplitIfs
import AppCatalog.Proofs.Json.Grammar
import AppCatalog.Proofs.Text.Repetition
import AppCatalog.Proofs.Text.Utf8

/-!
# Reading JSON

A reader of all of JSON, step by step from characters to arrays and objects within each other. It
shares nothing with what writes JSON here but the meaning of a hexadecimal digit.

* **A step is sound** (`Json.Sound`) if it takes nothing but what spells the item that it finds.
* **Values** (`Json.valueStep_sound`, `Json.Spells.isTakenBy`) are read only from what spells them,
  and from each of their spellings.
* **The reader accepts exactly the texts of JSON** (`Json.read?_eq_some_iff`), so no text spells two
  values (`Json.IsText.unique`), and bytes are read as UTF-8 (`Json.ofBytes?`).
-/

namespace AppCatalog.Json

open Text

/-! ## The reader -/

/-- The character of a code point, if it is one. -/
def charOf? (n : Nat) : Option Char :=
  if n.isValidChar then some (Char.ofNat n) else none

/-- Takes four digits for the code unit that they stand for. -/
def unitStep : Step Char Nat := fun s =>
  if (s.take 4).length = 4 then (unitOf? (s.take 4)).map (·, s.drop 4) else none

/-- Takes the second half of a pair. -/
def secondHalf (high : Nat) : Step Char Char
  | '\\' :: 'u' :: s =>
    match unitStep s with
    | some (low, rest) => if isLow low then (charOf? (joined high low)).map (·, rest) else none
    | none => none
  | _ => none

/-- Takes what stands behind the letter of code units. -/
def codeStep : Step Char Char := fun s =>
  match unitStep s with
  | some (unit, rest) => if isHigh unit then secondHalf unit rest else (charOf? unit).map (·, rest)
  | none => none

/-- Takes what stands behind a backslash. -/
def escapeStep : Step Char Char
  | [] => none
  | letter :: s => if letter = 'u' then codeStep s else (escapeLetters.lookup letter).map (·, s)

/-- Takes a character of a text. -/
def charStep : Step Char Char
  | [] => none
  | c :: s =>
    if c = '"' ∨ c.toNat < 0x20 then none
    else if c = '\\' then escapeStep s
    else some (c, s)

/-- Takes a text. -/
def textStep : Step Char String
  | '"' :: s =>
    match charStep.many s with
    | (chars, '"' :: rest) => some (String.ofList chars, rest)
    | _ => none
  | _ => none

/-- Whether a character may stand in a number or in a name. -/
def isWordChar (c : Char) : Bool :=
  c.isAlphanum || c ∈ ['+', '-', '.']

/-- The value of a word, if it has one. -/
def word? (word : List Char) : Option Value :=
  if word = ['n', 'u', 'l', 'l'] then some .null
  else if word = ['t', 'r', 'u', 'e'] then some (.bool true)
  else if word = ['f', 'a', 'l', 's', 'e'] then some (.bool false)
  else if isNumber word then some (.number word)
  else none

/-- Takes a word as long as it goes. -/
def wordStep : Step Char Value := fun s =>
  (word? (s.takeWhile isWordChar)).map (·, s.dropWhile isWordChar)

/-- What stands behind blanks. -/
def skipBlanks (s : List Char) : List Char := s.dropWhile isBlank

variable {α : Type}

/-- Takes an item and the blanks around it. -/
def padded (step : Step Char α) : Step Char α := fun s =>
  (step (skipBlanks s)).map fun (item, rest) => (item, skipBlanks rest)

/-- Takes a name, a colon and a value. -/
def memberStep (step : Step Char Value) : Step Char (String × Value) := fun s =>
  match textStep (skipBlanks s) with
  | some (name, rest) =>
    match skipBlanks rest with
    | ':' :: rest => (step rest).map fun (value, rest) => ((name, value), rest)
    | _ => none
  | none => none

/-- Takes items with commas between them, and what closes them, in a number of rounds. -/
def sequence (close : Char) (step : Step Char α) : (rounds : Nat) → Step Char (List α)
  | 0, _ => none
  | rounds + 1, s =>
    match step s with
    | some (item, mark :: rest) =>
      if mark = ',' then
        (sequence close step rounds rest).map fun (items, rest) => (item :: items, rest)
      else if mark = close then some ([item], rest)
      else none
    | _ => none

/-- Takes items, if there are any, and what closes them. -/
def enclosed (close : Char) (step : Step Char α) : Step Char (List α) := fun s =>
  match skipBlanks s with
  | [] => none
  | mark :: rest => if mark = close then some ([], rest) else sequence close step s.length s

/-- Takes a value that nests no deeper than a number of levels. -/
def valueStep : (depth : Nat) → Step Char Value
  | 0, _ => none
  | _ + 1, [] => none
  | depth + 1, mark :: s =>
    if mark = '[' then
      (enclosed ']' (padded (valueStep depth)) s).map fun (items, rest) => (.array items, rest)
    else if mark = '\x7b' then
      (enclosed '\x7d' (memberStep (padded (valueStep depth))) s).map fun (members, rest) =>
        (.object members, rest)
    else if mark = '"' then (textStep (mark :: s)).map fun (value, rest) => (.text value, rest)
    else wordStep (mark :: s)

/-- The value that a text spells, if it is a text of JSON. -/
def read? (text : String) : Option Value :=
  match padded (valueStep text.toList.length) text.toList with
  | some (value, []) => some value
  | _ => none

/-! ## Characters -/

/-- Whether a step takes nothing but what spells the item that it finds. -/
def Sound (step : Step Char α) (spells : α → List Char → Prop) : Prop :=
  ∀ ⦃s item rest⦄, step s = some (item, rest) → ∃ taken, s = taken ++ rest ∧ spells item taken

/-- A character is that of its code point only. -/
lemma charOf?_eq_some_iff {n : Nat} {c : Char} : charOf? n = some c ↔ c.toNat = n := by
  unfold charOf?
  constructor
  · intro found
    split_ifs at found with valid
    cases found
    unfold Char.ofNat
    rw [dif_pos valid]
    rfl
  · rintro rfl
    have valid : c.toNat.isValidChar := c.valid
    rw [if_pos valid, Char.ofNat_toNat]

/-- No character is half of a pair. -/
lemma isHigh_toNat (c : Char) : isHigh c.toNat = false := by
  have valid : c.toNat < 0xD800 ∨ 0xDFFF < c.toNat ∧ c.toNat < 0x110000 := c.valid
  unfold isHigh
  rw [Bool.and_eq_false_iff, decide_eq_false_iff_not, decide_eq_false_iff_not]
  omega

/-- A code unit is taken by its digits. -/
lemma unitStep_append {digits : List Char} {unit : Nat} (four : digits.length = 4)
    (read : unitOf? digits = some unit) (rest : List Char) :
    unitStep (digits ++ rest) = some (unit, rest) := by
  unfold unitStep
  rw [List.take_left' four, List.drop_left' four, if_pos four, read]
  rfl

/-- A code unit is taken by its digits only. -/
lemma exists_of_unitStep {s rest : List Char} {unit : Nat}
    (taken : unitStep s = some (unit, rest)) :
    ∃ digits, s = digits ++ rest ∧ digits.length = 4 ∧ unitOf? digits = some unit := by
  unfold unitStep at taken
  split_ifs at taken with four
  obtain ⟨unit', read, same⟩ := Option.map_eq_some_iff.1 taken
  cases same
  exact ⟨s.take 4, (List.take_append_drop 4 s).symm, four, read⟩

/-- **A character is taken by each of its spellings**, whatever follows. -/
lemma charStep_of_spells {c : Char} {piece : List Char} (spells : SpellsChar c piece)
    (rest : List Char) : charStep (piece ++ rest) = some (c, rest) := by
  cases spells with
  | plain notQuote notBackslash notControl =>
      have notLast : ¬ (c = '"' ∨ c.toNat < 0x20) := by
        rintro (isQuote | isControl)
        · exact notQuote isQuote
        · omega
      rw [List.singleton_append, charStep, if_neg notLast, if_neg notBackslash]
  | letter known =>
      simp only [escapeLetters, List.mem_cons, Prod.mk.injEq, List.not_mem_nil, or_false] at known
      rcases known with ⟨rfl, rfl⟩ | ⟨rfl, rfl⟩ | ⟨rfl, rfl⟩ | ⟨rfl, rfl⟩ | ⟨rfl, rfl⟩ |
        ⟨rfl, rfl⟩ | ⟨rfl, rfl⟩ | ⟨rfl, rfl⟩ <;> rfl
  | @unit digits four read =>
      show codeStep (digits ++ rest) = _
      unfold codeStep
      rw [unitStep_append four read]
      dsimp only
      rw [isHigh_toNat, charOf?_eq_some_iff.2 rfl]
      rfl
  | @pair digits digits' high low four four' read read' high_isHigh low_isLow value_eq =>
      show codeStep (digits ++ '\\' :: 'u' :: digits' ++ rest) = _
      unfold codeStep
      rw [List.append_assoc, unitStep_append four read]
      dsimp only
      rw [if_pos high_isHigh]
      show secondHalf high ('\\' :: 'u' :: (digits' ++ rest)) = _
      rw [secondHalf, unitStep_append four' read']
      dsimp only
      rw [if_pos low_isLow, charOf?_eq_some_iff.2 value_eq]
      rfl

/-- The second half of a pair is taken behind a first half only. -/
lemma exists_of_secondHalf {high : Nat} {s rest : List Char} {c : Char}
    (taken : secondHalf high s = some (c, rest)) :
    ∃ digits low, s = '\\' :: 'u' :: (digits ++ rest) ∧ digits.length = 4 ∧
      unitOf? digits = some low ∧ isLow low = true ∧ c.toNat = joined high low := by
  unfold secondHalf at taken
  split at taken
  · next s =>
      split at taken
      · next low rest' half =>
          split_ifs at taken with low_isLow
          obtain ⟨c', found, same⟩ := Option.map_eq_some_iff.1 taken
          cases same
          obtain ⟨digits, rfl, four, read⟩ := exists_of_unitStep half
          exact ⟨digits, low, rfl, four, read, low_isLow, charOf?_eq_some_iff.1 found⟩
      · cases taken
  · cases taken

/-- Behind the letter of code units a character is taken by its unit or its pair only. -/
lemma exists_of_codeStep {s rest : List Char} {c : Char} (taken : codeStep s = some (c, rest)) :
    ∃ piece, s = piece ++ rest ∧ SpellsChar c ('\\' :: 'u' :: piece) := by
  unfold codeStep at taken
  split at taken
  · next unit behind half =>
      obtain ⟨digits, rfl, four, read⟩ := exists_of_unitStep half
      split_ifs at taken with unit_isHigh
      · obtain ⟨digits', low, rfl, four', read', low_isLow, value_eq⟩ := exists_of_secondHalf taken
        refine ⟨digits ++ '\\' :: 'u' :: digits', ?_,
          .pair four four' read read' unit_isHigh low_isLow value_eq⟩
        simp
      · obtain ⟨c', found, same⟩ := Option.map_eq_some_iff.1 taken
        cases same
        rw [← charOf?_eq_some_iff.1 found] at read
        exact ⟨digits, rfl, .unit four read⟩
  · cases taken

/-- A letter that is looked up is known. -/
lemma mem_of_lookup {letter c : Char} (found : escapeLetters.lookup letter = some c) :
    (letter, c) ∈ escapeLetters := by
  obtain ⟨before, behind, split_eq, -⟩ := List.lookup_eq_some_iff.1 found
  rw [split_eq]
  exact List.mem_append_right _ List.mem_cons_self

/-- **A character is taken by its spellings only.** -/
lemma charStep_sound : Sound charStep SpellsChar := by
  intro s c rest taken
  unfold charStep at taken
  split at taken
  · cases taken
  · next s =>
      split_ifs at taken with isLast isBackslash
      · rw [isBackslash]
        unfold escapeStep at taken
        split at taken
        · cases taken
        · next letter s =>
            split_ifs at taken with isU
            · rw [isU]
              obtain ⟨piece, rfl, spells⟩ := exists_of_codeStep taken
              exact ⟨'\\' :: 'u' :: piece, rfl, spells⟩
            · obtain ⟨_, found, same⟩ := Option.map_eq_some_iff.1 taken
              cases same
              exact ⟨['\\', letter], rfl, .letter (mem_of_lookup found)⟩
      · cases taken
        rw [not_or] at isLast
        exact ⟨[c], rfl, .plain isLast.1 isBackslash (Nat.not_lt.mp isLast.2)⟩

/-- A spelling of a character has at least one character. -/
lemma SpellsChar.ne_nil {c : Char} {piece : List Char} (spells : SpellsChar c piece) :
    piece ≠ [] := by
  cases spells <;> exact nofun

/-- What a sound step takes is shorter by what spells the item. -/
lemma Sound.shortens {step : Step Char α} {spells : α → List Char → Prop}
    (sound : Sound step spells) (notEmpty : ∀ item s, spells item s → s ≠ []) :
    step.Shortens := by
  intro s item rest taken
  obtain ⟨piece, rfl, here⟩ := sound taken
  have longer : 0 < piece.length := List.length_pos_iff.2 (notEmpty item piece here)
  rw [List.length_append]
  omega

/-! ## Texts -/

/-- The characters of a text are taken one after another, up to the quotation mark behind them. -/
lemma reads_charStep {chars : List Char} {pieces : List (List Char)}
    (spells : List.Forall₂ SpellsChar chars pieces) (rest : List Char) :
    Step.Reads charStep (pieces.flatten ++ '"' :: rest) chars ('"' :: rest) := by
  induction spells with
  | nil => exact .stop rfl
  | @cons c piece chars pieces spells _ ih =>
      rw [List.flatten_cons, List.append_assoc]
      refine .next (charStep_of_spells spells _) ?_ ih
      have longer : 0 < piece.length := List.length_pos_iff.2 spells.ne_nil
      simp only [List.length_append]
      omega

/-- What was taken as characters spells them. -/
lemma exists_of_reads {s rest chars : List Char} (reads : Step.Reads charStep s chars rest) :
    ∃ pieces, List.Forall₂ SpellsChar chars pieces ∧ s = pieces.flatten ++ rest := by
  induction reads with
  | stop declined => exact ⟨[], .nil, rfl⟩
  | @next s after rest c chars taken shorter more ih =>
      obtain ⟨piece, rfl, spells⟩ := charStep_sound taken
      obtain ⟨pieces, others, rfl⟩ := ih
      exact ⟨piece :: pieces, .cons spells others, by simp⟩

/-- **A text is taken by each of its spellings**, whatever follows. -/
lemma textStep_of_spells {text : String} {written : List Char} (spells : SpellsText text written)
    (rest : List Char) : textStep (written ++ rest) = some (text, rest) := by
  obtain ⟨pieces, spells, rfl⟩ := spells
  rw [List.cons_append, List.append_assoc, List.singleton_append, textStep,
    (reads_charStep spells rest).many_eq]
  show some (String.ofList text.toList, rest) = _
  rw [String.ofList_toList]

/-- **A text is taken by its spellings only.** -/
lemma textStep_sound : Sound textStep SpellsText := by
  intro s text rest taken
  unfold textStep at taken
  split at taken
  · next s =>
      have reads := Step.reads_many (charStep_sound.shortens fun _ _ => SpellsChar.ne_nil) s
      split at taken
      · next chars rest' many_eq =>
          cases taken
          rw [many_eq] at reads
          obtain ⟨pieces, spells, rfl⟩ := exists_of_reads reads
          refine ⟨'"' :: (pieces.flatten ++ ['"']), by simp, pieces, ?_, rfl⟩
          rwa [String.toList_ofList]
      · cases taken
  · cases taken

/-- A spelling of a text starts with a quotation mark. -/
lemma SpellsText.exists_cons {text : String} {written : List Char}
    (spells : SpellsText text written) : ∃ behind, written = '"' :: behind :=
  let ⟨pieces, _, written_eq⟩ := spells
  ⟨pieces.flatten ++ ['"'], written_eq⟩

/-! ## Words -/

/-- Whether a word ends in front of some characters. -/
def EndsWord (rest : List Char) : Prop := ∀ c ∈ rest.head?, isWordChar c = false

/-- Only a character of a word goes on with a number. -/
lemma isWordChar_of_read {state next : NumberState} {c : Char} (read : state.read c = some next) :
    isWordChar c = true := by
  by_contra noWordChar
  simp only [isWordChar, Bool.or_eq_true, decide_eq_true_eq, not_or, List.mem_cons,
    List.not_mem_nil, or_false, Char.isAlphanum, Bool.not_eq_true] at noWordChar
  obtain ⟨⟨noLetter, noDigit⟩, noPlus, noMinus, noPoint⟩ := noWordChar
  have noZero : c ≠ '0' := by
    rintro rfl
    exact absurd noDigit (by decide)
  have noMark : c ≠ 'e' ∧ c ≠ 'E' := by
    constructor <;> rintro rfl <;> exact absurd noLetter (by decide)
  cases state <;>
    simp [NumberState.read, NumberState.afterWhole, noDigit, noPlus, noMinus, noPoint, noZero,
      noMark.1, noMark.2] at read

/-- A number is made of characters of a word. -/
lemma isWordChar_of_foldlM {lexeme : List Char} {state last : NumberState}
    (read : lexeme.foldlM NumberState.read state = some last) :
    ∀ c ∈ lexeme, isWordChar c = true := by
  induction lexeme generalizing state with
  | nil => exact nofun
  | cons c lexeme ih =>
      rw [List.foldlM_cons] at read
      obtain ⟨next, taken, more⟩ := Option.bind_eq_some_iff.1 read
      exact List.forall_mem_cons.2 ⟨isWordChar_of_read taken, ih more⟩

/-- A spelling of a word has at least one character and only characters of a word. -/
lemma characters_of_spellsWord {value : Value} {s : List Char} (spells : SpellsWord value s) :
    s ≠ [] ∧ ∀ c ∈ s, isWordChar c = true := by
  cases spells with
  | null | true | false => exact ⟨nofun, @of_decide_eq_true _ (List.decidableBAll _ _) rfl⟩
  | number valid =>
      obtain ⟨last, read, isLast⟩ := (Option.any_eq_true _ _).1 valid
      refine ⟨?_, isWordChar_of_foldlM read⟩
      rintro rfl
      exact absurd valid (by decide)

/-- The value of a word is the one that it spells. -/
lemma word?_eq_some_iff {value : Value} {s : List Char} :
    word? s = some value ↔ SpellsWord value s := by
  constructor
  · intro found
    unfold word? at found
    split_ifs at found with isNull isTrue isFalse valid <;> cases found
    · exact isNull ▸ .null
    · exact isTrue ▸ .true
    · exact isFalse ▸ .false
    · exact .number valid
  · intro spells
    cases spells with
    | null | true | false => rfl
    | number valid =>
        have noName : ∀ name : List Char, isNumber name = false → s ≠ name := by
          rintro name invalid rfl
          rw [valid] at invalid
          cases invalid
        unfold word?
        rw [if_neg (noName _ (by decide)), if_neg (noName _ (by decide)),
          if_neg (noName _ (by decide)), if_pos valid]

/-- **A word is taken by its spelling**, if it ends there. -/
lemma wordStep_of_spells {value : Value} {s rest : List Char} (spells : SpellsWord value s)
    (ends : EndsWord rest) : wordStep (s ++ rest) = some (value, rest) := by
  have here := (characters_of_spellsWord spells).2
  have behind : rest.takeWhile isWordChar = [] ∧ rest.dropWhile isWordChar = rest := by
    cases rest with
    | nil => exact ⟨rfl, rfl⟩
    | cons c rest =>
        have noWordChar : ¬ isWordChar c = true := by
          rw [ends c rfl]
          exact Bool.false_ne_true
        exact ⟨List.takeWhile_cons_of_neg noWordChar, List.dropWhile_cons_of_neg noWordChar⟩
  unfold wordStep
  rw [List.takeWhile_append_of_pos here, List.dropWhile_append_of_pos here, behind.1, behind.2,
    List.append_nil, word?_eq_some_iff.2 spells]
  rfl

/-- **A word is taken by its spelling only.** -/
lemma wordStep_sound : Sound wordStep SpellsWord := by
  intro s value rest taken
  obtain ⟨value', found, same⟩ := Option.map_eq_some_iff.1 taken
  cases same
  exact ⟨s.takeWhile isWordChar, List.takeWhile_append_dropWhile.symm, word?_eq_some_iff.1 found⟩

/-! ## Blanks -/

/-- Blanks are skipped. -/
lemma skipBlanks_append {blanks : List Char} (areBlanks : AreBlanks blanks) (s : List Char) :
    skipBlanks (blanks ++ s) = skipBlanks s :=
  List.dropWhile_append_of_pos areBlanks

/-- Nothing but blanks is skipped. -/
lemma skipBlanks_cons {c : Char} (noBlank : isBlank c = false) (s : List Char) :
    skipBlanks (c :: s) = c :: s :=
  List.dropWhile_cons_of_neg (by rw [noBlank]; exact Bool.false_ne_true)

/-- What is skipped are blanks. -/
lemma exists_blanks (s : List Char) : ∃ blanks, AreBlanks blanks ∧ s = blanks ++ skipBlanks s :=
  ⟨s.takeWhile isBlank, fun _ => List.mem_takeWhile_imp, List.takeWhile_append_dropWhile.symm⟩

/-- Whether nothing stands there or what is behind an item: a comma or what closes. -/
def EndsItem (rest : List Char) : Prop := ∀ c ∈ rest.head?, c ∈ [',', ']', '\x7d']

/-- A comma ends an item. -/
lemma endsItem_comma (rest : List Char) : EndsItem (',' :: rest) := by
  rintro c ⟨⟩
  decide

/-- Where an item ends, nothing is skipped. -/
lemma EndsItem.skipBlanks_eq {rest : List Char} (ends : EndsItem rest) :
    skipBlanks rest = rest := by
  cases rest with
  | nil => rfl
  | cons c rest =>
      have noBlank : ∀ mark ∈ [',', ']', '\x7d'], isBlank mark = false :=
        @of_decide_eq_true _ (List.decidableBAll _ _) rfl
      exact skipBlanks_cons (noBlank c (ends c rfl)) rest

/-- Behind blanks and where an item ends, a word ends. -/
lemma EndsItem.endsWord {blanks rest : List Char} (areBlanks : AreBlanks blanks)
    (ends : EndsItem rest) : EndsWord (blanks ++ rest) := by
  intro c here
  cases blanks with
  | nil =>
      have noWordChar : ∀ mark ∈ [',', ']', '\x7d'], isWordChar mark = false :=
        @of_decide_eq_true _ (List.decidableBAll _ _) rfl
      exact noWordChar c (ends c here)
  | cons blank blanks =>
      cases here
      have isBlank : c ∈ [' ', '\t', '\n', '\r'] :=
        of_decide_eq_true (areBlanks c List.mem_cons_self)
      have noWordChar : ∀ mark ∈ [' ', '\t', '\n', '\r'], isWordChar mark = false :=
        @of_decide_eq_true _ (List.decidableBAll _ _) rfl
      exact noWordChar c isBlank

/-! ## Items and what closes them -/

/-- Whether the first character that is no blank does not close. -/
def Opens (close : Char) (s : List Char) : Prop :=
  ∃ c behind, skipBlanks s = c :: behind ∧ c ≠ close

/-- A comma is followed by more items. -/
lemma sequence_more {close : Char} {step : Step Char α} {rounds : Nat} {s more rest : List Char}
    {item : α} {items : List α} (taken : step s = some (item, ',' :: more))
    (behind : sequence close step rounds more = some (items, rest)) :
    sequence close step (rounds + 1) s = some (item :: items, rest) := by
  rw [sequence, taken]
  dsimp only
  rw [if_pos rfl, behind]
  rfl

/-- What closes is followed by no more items. -/
lemma sequence_last {close : Char} {step : Step Char α} {s rest : List Char} {item : α}
    (noComma : close ≠ ',') (taken : step s = some (item, close :: rest)) (rounds : Nat) :
    sequence close step (rounds + 1) s = some ([item], rest) := by
  rw [sequence, taken]
  dsimp only
  rw [if_neg noComma, if_pos rfl]

/-- No items are taken where only blanks stand before what closes. -/
lemma enclosed_blanks {close : Char} (step : Step Char α) {blanks : List Char}
    (areBlanks : AreBlanks blanks) (noBlank : isBlank close = false) (rest : List Char) :
    enclosed close step (blanks ++ close :: rest) = some ([], rest) := by
  unfold enclosed
  rw [skipBlanks_append areBlanks, skipBlanks_cons noBlank]
  dsimp only
  rw [if_pos rfl]

/-- Items are taken where there are any. -/
lemma enclosed_of_opens {close : Char} (step : Step Char α) {s : List Char}
    (opens : Opens close s) : enclosed close step s = sequence close step s.length s := by
  obtain ⟨c, behind, skip_eq, noClose⟩ := opens
  unfold enclosed
  rw [skip_eq]
  dsimp only
  rw [if_neg noClose]

section Soundness

variable (close : Char) {step : Step Char α} {spells : α → List Char → Prop}
  (spellsAll : List α → List Char → Prop)

/-- A sequence takes only items with commas between them and what closes them. -/
lemma sequence_sound (sound : Sound step spells)
    (one : ∀ ⦃item s⦄, spells item s → spellsAll [item] s)
    (cons : ∀ ⦃item items s more⦄, spells item s → spellsAll items more →
      spellsAll (item :: items) (s ++ ',' :: more)) (rounds : Nat) :
    Sound (sequence close step rounds) fun items s => ∃ within, s = within ++ [close] ∧
      spellsAll items within := by
  induction rounds with
  | zero => exact nofun
  | succ rounds ih =>
      intro s items rest taken
      rw [sequence] at taken
      split at taken
      · next item mark behind found =>
          obtain ⟨piece, rfl, here⟩ := sound found
          split_ifs at taken with isComma isClose
          · obtain ⟨⟨items', rest'⟩, more, same⟩ := Option.map_eq_some_iff.1 taken
            cases same
            obtain ⟨_, rfl, within, rfl, others⟩ := ih more
            exact ⟨piece ++ ',' :: (within ++ [close]), by simp [isComma],
              piece ++ ',' :: within, by simp, cons here others⟩
          · cases taken
            exact ⟨piece ++ [close], by simp [isClose], piece, rfl, one here⟩
      · cases taken

/-- What is enclosed takes only blanks, or items with commas between them, and what closes. -/
lemma enclosed_sound (sound : Sound step spells)
    (one : ∀ ⦃item s⦄, spells item s → spellsAll [item] s)
    (cons : ∀ ⦃item items s more⦄, spells item s → spellsAll items more →
      spellsAll (item :: items) (s ++ ',' :: more)) :
    Sound (enclosed close step) fun items s => ∃ within, s = within ++ [close] ∧
      (items = [] ∧ AreBlanks within ∨ spellsAll items within) := by
  intro s items rest taken
  unfold enclosed at taken
  split at taken
  · cases taken
  · next mark behind skip_eq =>
      split_ifs at taken with isClose
      · cases taken
        obtain ⟨blanks, areBlanks, s_eq⟩ := exists_blanks s
        refine ⟨blanks ++ [close], ?_, blanks, rfl, .inl ⟨rfl, areBlanks⟩⟩
        rw [s_eq, skip_eq, isClose, List.append_assoc, List.singleton_append]
      · obtain ⟨_, s_eq, within, rfl, others⟩ :=
          sequence_sound close spellsAll sound one cons s.length taken
        exact ⟨_, s_eq, within, rfl, .inr others⟩

end Soundness

/-- A step with blanks around takes only what the step takes and blanks around it. -/
lemma padded_sound {step : Step Char Value}
    (sound : Sound step fun value s => Spells (.value value) s) :
    Sound (padded step) fun value s => Spells (.padded value) s := by
  intro s value rest taken
  obtain ⟨⟨value', behind⟩, found, same⟩ := Option.map_eq_some_iff.1 taken
  cases same
  obtain ⟨before, areBlanks, s_eq⟩ := exists_blanks s
  obtain ⟨written, written_eq, spells⟩ := sound found
  obtain ⟨after, areBlanks', behind_eq⟩ := exists_blanks behind
  refine ⟨before ++ (written ++ after), ?_, .padded areBlanks spells areBlanks'⟩
  rw [List.append_assoc, List.append_assoc, ← behind_eq, ← written_eq, ← s_eq]

/-- A member is taken by a name, a colon and what its value is taken by, and blanks only. -/
lemma memberStep_sound {step : Step Char Value}
    (sound : Sound step fun value s => Spells (.padded value) s) :
    Sound (memberStep step) fun member s => Spells (.member member) s := by
  intro s member rest taken
  unfold memberStep at taken
  split at taken
  · next name behind found =>
      obtain ⟨before, areBlanks, s_eq⟩ := exists_blanks s
      obtain ⟨written, written_eq, spellsName⟩ := textStep_sound found
      obtain ⟨after, areBlanks', behind_eq⟩ := exists_blanks behind
      split at taken
      · next colon skip_eq =>
          obtain ⟨⟨value, rest'⟩, valueFound, same⟩ := Option.map_eq_some_iff.1 taken
          cases same
          obtain ⟨piece, rfl, spells⟩ := sound valueFound
          refine ⟨before ++ (written ++ (after ++ ':' :: piece)), ?_,
            .member areBlanks spellsName areBlanks' spells⟩
          rw [s_eq, written_eq, behind_eq, skip_eq]
          simp
      · cases taken
  · cases taken

/-! ## Values -/

/-- **A value is taken by its spellings only.** -/
lemma valueStep_sound (depth : Nat) :
    Sound (valueStep depth) fun value s => Spells (.value value) s := by
  induction depth with
  | zero => exact nofun
  | succ depth ih =>
      have items_sound := enclosed_sound ']' (fun items s => Spells (.items items) s)
        (padded_sound ih) (fun _ _ => .lastItem) fun _ _ _ _ => .item
      have members_sound := enclosed_sound '\x7d' (fun members s => Spells (.members members) s)
        (memberStep_sound (padded_sound ih)) (fun _ _ => .lastMember) fun _ _ _ _ => .oneMember
      intro s value rest taken
      cases s with
      | nil => cases taken
      | cons mark s =>
          rw [valueStep] at taken
          split_ifs at taken with isArray isObject isText
          · obtain ⟨⟨items, rest'⟩, found, same⟩ := Option.map_eq_some_iff.1 taken
            cases same
            obtain ⟨_, rfl, within, rfl, ⟨rfl, areBlanks⟩ | spells⟩ := items_sound found
            · exact ⟨'[' :: (within ++ [']']), by rw [isArray]; rfl, .emptyArray areBlanks⟩
            · exact ⟨'[' :: (within ++ [']']), by rw [isArray]; rfl, .array spells⟩
          · obtain ⟨⟨members, rest'⟩, found, same⟩ := Option.map_eq_some_iff.1 taken
            cases same
            obtain ⟨_, rfl, within, rfl, ⟨rfl, areBlanks⟩ | spells⟩ := members_sound found
            · exact ⟨'\x7b' :: (within ++ ['\x7d']), by rw [isObject]; rfl, .emptyObject areBlanks⟩
            · exact ⟨'\x7b' :: (within ++ ['\x7d']), by rw [isObject]; rfl, .object spells⟩
          · obtain ⟨⟨text, rest'⟩, found, same⟩ := Option.map_eq_some_iff.1 taken
            cases same
            obtain ⟨written, s_eq, spells⟩ := textStep_sound found
            exact ⟨written, s_eq, .text spells⟩
          · obtain ⟨written, s_eq, spells⟩ := wordStep_sound taken
            exact ⟨written, s_eq, .word spells⟩

/-- A word character is no blank and closes nothing. -/
lemma noMark_of_isWordChar {c : Char} (isWord : isWordChar c = true) :
    isBlank c = false ∧ c ≠ ']' ∧ c ∉ ['[', '\x7b', '"'] := by
  have noWord : ∀ mark ∈ [' ', '\t', '\n', '\r', ']', '[', '\x7b', '"'],
      isWordChar mark = false := @of_decide_eq_true _ (List.decidableBAll _ _) rfl
  have noMark : c ∉ [' ', '\t', '\n', '\r', ']', '[', '\x7b', '"'] := by
    intro isMark
    rw [noWord c isMark] at isWord
    cases isWord
  simp only [List.mem_cons, List.not_mem_nil, or_false, not_or] at noMark
  simp [isBlank, noMark]

/-- A value starts with a character that is no blank and does not close. -/
lemma Spells.exists_cons {value : Value} {s : List Char} (spells : Spells (.value value) s) :
    ∃ c behind, s = c :: behind ∧ isBlank c = false ∧ c ≠ ']' := by
  cases spells with
  | word spells =>
      obtain ⟨notEmpty, isWord⟩ := characters_of_spellsWord spells
      obtain ⟨c, behind, rfl⟩ := List.exists_cons_of_ne_nil notEmpty
      have noMark := noMark_of_isWordChar (isWord c List.mem_cons_self)
      exact ⟨c, behind, rfl, noMark.1, noMark.2.1⟩
  | text spells =>
      obtain ⟨behind, rfl⟩ := spells.exists_cons
      exact ⟨_, behind, rfl, by decide⟩
  | emptyArray | array | emptyObject | object => exact ⟨_, _, rfl, by decide⟩

/-- What stands behind blanks in front of a padded value is the value. -/
lemma Spells.opens {value : Value} {s : List Char} (spells : Spells (.padded value) s)
    (rest : List Char) : Opens ']' (s ++ rest) := by
  cases spells with
  | padded areBlanks spells areBlanks' =>
      obtain ⟨c, behind, rfl, noBlank, noClose⟩ := spells.exists_cons
      rw [List.append_assoc, Opens, skipBlanks_append areBlanks]
      exact ⟨c, _, skipBlanks_cons noBlank _, noClose⟩

/-- What stands behind blanks in front of items is the first item. -/
lemma Spells.opens_items {items : List Value} {s : List Char} (spells : Spells (.items items) s)
    (rest : List Char) : Opens ']' (s ++ rest) := by
  cases spells with
  | lastItem spells => exact spells.opens rest
  | item spells =>
      rw [List.append_assoc]
      exact spells.opens _

/-- What stands behind blanks in front of a member is its name. -/
lemma Spells.opens_member {member : String × Value} {s : List Char}
    (spells : Spells (.member member) s) (rest : List Char) : Opens '\x7d' (s ++ rest) := by
  cases spells with
  | member areBlanks spellsName =>
      obtain ⟨behind, rfl⟩ := spellsName.exists_cons
      rw [List.append_assoc, Opens, skipBlanks_append areBlanks]
      exact ⟨'"', _, skipBlanks_cons rfl _, by decide⟩

/-- What stands behind blanks in front of members is the name of the first one. -/
lemma Spells.opens_members {members : List (String × Value)} {s : List Char}
    (spells : Spells (.members members) s) (rest : List Char) : Opens '\x7d' (s ++ rest) := by
  cases spells with
  | lastMember spells => exact spells.opens_member rest
  | oneMember spells =>
      rw [List.append_assoc]
      exact spells.opens_member _

/-- Whether a phrase is taken by characters, if there are levels and rounds for all of them and it
ends there. -/
def Phrase.IsTakenBy (s : List Char) : Phrase → Prop
  | .value item => ∀ ⦃depth rest⦄, s.length ≤ depth + 1 → EndsWord rest →
      valueStep (depth + 1) (s ++ rest) = some (item, rest)
  | .padded item => ∀ ⦃depth rest⦄, s.length ≤ depth → EndsItem rest →
      Json.padded (valueStep depth) (s ++ rest) = some (item, rest)
  | .items all => ∀ ⦃depth rounds rest⦄, s.length ≤ depth → s.length < rounds →
      sequence ']' (Json.padded (valueStep depth)) rounds (s ++ ']' :: rest) = some (all, rest)
  | .member item => ∀ ⦃depth rest⦄, s.length ≤ depth → EndsItem rest →
      memberStep (Json.padded (valueStep depth)) (s ++ rest) = some (item, rest)
  | .members all => ∀ ⦃depth rounds rest⦄, s.length ≤ depth → s.length < rounds →
      sequence '\x7d' (memberStep (Json.padded (valueStep depth))) rounds (s ++ '\x7d' :: rest)
        = some (all, rest)

/-- **A phrase is taken by each of its spellings.** -/
lemma Spells.isTakenBy {phrase : Phrase} {s : List Char} (spells : Spells phrase s) :
    phrase.IsTakenBy s := by
  induction spells with
  | @word value s spells =>
      intro depth rest deep ends
      obtain ⟨notEmpty, isWord⟩ := characters_of_spellsWord spells
      obtain ⟨c, behind, rfl⟩ := List.exists_cons_of_ne_nil notEmpty
      have noMark := (noMark_of_isWordChar (isWord c List.mem_cons_self)).2.2
      simp only [List.mem_cons, List.not_mem_nil, or_false, not_or] at noMark
      rw [List.cons_append, valueStep, if_neg noMark.1, if_neg noMark.2.1, if_neg noMark.2.2]
      exact wordStep_of_spells spells ends
  | @text value s spells =>
      intro depth rest deep ends
      have taken := textStep_of_spells spells rest
      obtain ⟨behind, rfl⟩ := spells.exists_cons
      rw [List.cons_append] at taken ⊢
      rw [valueStep, if_neg (by decide), if_neg (by decide), if_pos rfl, taken]
      rfl
  | @emptyArray blanks areBlanks =>
      intro depth rest deep ends
      rw [List.cons_append, List.append_assoc, List.singleton_append, valueStep, if_pos rfl,
        enclosed_blanks _ areBlanks (by decide)]
      rfl
  | @array items s spells ih =>
      intro depth rest deep ends
      have inside : s.length ≤ depth := by
        simp only [List.length_cons, List.length_append] at deep
        omega
      rw [List.cons_append, List.append_assoc, List.singleton_append, valueStep, if_pos rfl,
        enclosed_of_opens _ (spells.opens_items _), ih inside (by simp)]
      rfl
  | @emptyObject blanks areBlanks =>
      intro depth rest deep ends
      rw [List.cons_append, List.append_assoc, List.singleton_append, valueStep,
        if_neg (by decide), if_pos rfl, enclosed_blanks _ areBlanks (by decide)]
      rfl
  | @object members s spells ih =>
      intro depth rest deep ends
      have inside : s.length ≤ depth := by
        simp only [List.length_cons, List.length_append] at deep
        omega
      rw [List.cons_append, List.append_assoc, List.singleton_append, valueStep,
        if_neg (by decide), if_pos rfl, enclosed_of_opens _ (spells.opens_members _),
        ih inside (by simp)]
      rfl
  | @padded value before s after areBlanks spells areBlanks' ih =>
      intro depth rest deep ends
      obtain ⟨c, behind, s_eq, noBlank, -⟩ := spells.exists_cons
      have start : skipBlanks (s ++ (after ++ rest)) = s ++ (after ++ rest) := by
        rw [s_eq]
        exact skipBlanks_cons noBlank _
      -- a value has at least one character, so that there is a level for it
      have longer : 0 < s.length := by
        rw [s_eq]
        exact Nat.zero_lt_succ _
      simp only [List.length_append] at deep
      obtain ⟨depth, rfl⟩ : ∃ below, depth = below + 1 := ⟨depth - 1, by omega⟩
      unfold Json.padded
      rw [List.append_assoc, List.append_assoc, skipBlanks_append areBlanks, start,
        ih (by omega) (ends.endsWord areBlanks')]
      show some (value, skipBlanks (after ++ rest)) = _
      rw [skipBlanks_append areBlanks', ends.skipBlanks_eq]
  | @lastItem value s spells ih =>
      intro depth rounds rest deep enough
      cases rounds with
      | zero => cases enough
      | succ rounds => exact sequence_last (by decide) (ih deep (by rintro c ⟨⟩; decide)) rounds
  | @item value items s more spells behind ih ihBehind =>
      intro depth rounds rest deep enough
      simp only [List.length_append, List.length_cons] at deep enough
      cases rounds with
      | zero => cases enough
      | succ rounds =>
          rw [List.append_assoc, List.cons_append]
          exact sequence_more (ih (by omega) (endsItem_comma _))
            (ihBehind (by omega) (by omega))
  | @member name value before written after s areBlanks spellsName areBlanks' spells ih =>
      intro depth rest deep ends
      have inside : s.length ≤ depth := by
        simp only [List.length_append, List.length_cons] at deep
        omega
      have taken := textStep_of_spells spellsName (after ++ ':' :: (s ++ rest))
      obtain ⟨behind, written_eq⟩ := spellsName.exists_cons
      have start : ∀ rest, skipBlanks (written ++ rest) = written ++ rest := by
        intro rest
        rw [written_eq]
        exact skipBlanks_cons rfl _
      unfold memberStep
      simp only [List.append_assoc, List.cons_append]
      rw [skipBlanks_append areBlanks, start, taken]
      dsimp only
      rw [skipBlanks_append areBlanks', skipBlanks_cons (by decide)]
      show (Json.padded (valueStep depth) (s ++ rest)).map _ = _
      rw [ih inside ends]
      rfl
  | @lastMember member s spells ih =>
      intro depth rounds rest deep enough
      cases rounds with
      | zero => cases enough
      | succ rounds => exact sequence_last (by decide) (ih deep (by rintro c ⟨⟩; decide)) rounds
  | @oneMember member members s more spells behind ih ihBehind =>
      intro depth rounds rest deep enough
      simp only [List.length_append, List.length_cons] at deep enough
      cases rounds with
      | zero => cases enough
      | succ rounds =>
          rw [List.append_assoc, List.cons_append]
          exact sequence_more (ih (by omega) (endsItem_comma _))
            (ihBehind (by omega) (by omega))

/-! ## Texts of JSON -/

/-- **The reader accepts exactly the texts of JSON**, each with the value that it spells. -/
theorem read?_eq_some_iff {text : String} {value : Value} :
    read? text = some value ↔ IsText value text := by
  unfold read? IsText
  constructor
  · intro read
    split at read
    · next taken =>
        cases read
        obtain ⟨written, text_eq, spells⟩ := padded_sound (valueStep_sound _) taken
        rwa [text_eq, List.append_nil]
    · cases read
  · intro spells
    have noRest : EndsItem [] := nofun
    have taken := spells.isTakenBy le_rfl noRest
    rw [List.append_nil] at taken
    rw [taken]

/-- A text with blanks, escapes, a pair of code units and a number. -/
example : (read? " [\"\\u00e4\\uD83D\\uDE00\\/\" ,\t-1.5e+3]").isSome = true := by decide

/-- A text spells one value. -/
lemma IsText.unique {text : String} {value value' : Value} (isText : IsText value text)
    (isText' : IsText value' text) : value = value' := by
  rw [← read?_eq_some_iff] at isText isText'
  exact Option.some.inj (isText.symm.trans isText')

/-- The value that bytes spell, if they are a text of JSON in UTF-8. -/
def ofBytes? (bytes : Bytes) : Option Value := (Utf8.decode? bytes).bind read?

/-- The bytes of a text spell what the text spells. -/
lemma ofBytes?_encode {text : String} {value : Value} (isText : IsText value text) :
    ofBytes? (Utf8.encode text) = some value := by
  unfold ofBytes?
  rw [Utf8.decode?_encode]
  exact read?_eq_some_iff.2 isText

end AppCatalog.Json
