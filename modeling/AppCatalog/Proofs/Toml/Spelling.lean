import Mathlib.Data.List.Forall2
import Mathlib.Tactic.Lemma
import Mathlib.Tactic.SplitIfs
import AppCatalog.Proofs.Text.Digit
import AppCatalog.Proofs.Text.Repetition
import AppCatalog.Toml.Document
import AppCatalog.Toml.Writer

/-!
# Spelling values

How texts, whole numbers and truth values may be spelled in a document, and that each spelling is
read as what it spells.

* **A character of a text** (`SpellsChar`) stands as it is, or is escaped by a letter or by its code
  point. Each spelling of it is read as that character (`basicChar_of_spells`), whatever follows.
* **A text** (`SpellsText`) is spelled character by character between quotation marks.
* **A value that does not nest** (`Spells`) is a text, a whole number in decimal, or a truth value.
  It is read from its spelling if a line end, a comma or a brace follows (`scalar_of_spells`).
* **What is written is a spelling** (`spellsText_writtenText`).
-/

namespace AppCatalog.Toml

open Text

/-! ## Characters -/

/-- The letters of escapes, each with its character. -/
def escapeLetters : List (Char × Char) :=
  [('b', '\x08'), ('t', '\t'), ('n', '\n'), ('f', '\x0c'), ('r', '\r'), ('"', '"'), ('\\', '\\')]

/-- The marks of escapes by code point, each with its number of digits. -/
def codeMarks : List (Char × Nat) := [('u', 4), ('U', 8)]

/-- Whether characters spell a character inside a text. -/
inductive SpellsChar (c : Char) : List Char → Prop
  /-- As it is. -/
  | plain (plain : isPlain c = true) (notQuote : c ≠ '"') (notBackslash : c ≠ '\\') :
      SpellsChar c [c]
  /-- By a letter. -/
  | letter {letter : Char} (known : (letter, c) ∈ escapeLetters) : SpellsChar c ['\\', letter]
  /-- By its code point in hexadecimal. -/
  | code {mark : Char} {digits : List Char} {values : List Nat}
      (known : (mark, digits.length) ∈ codeMarks)
      (read : (digits.mapM fun d => Text.digit? 16 d.toNat) = some values)
      (value_eq : Text.ofDigits 16 values = c.toNat) : SpellsChar c ('\\' :: mark :: digits)

variable {c : Char} {piece : List Char}

/-- Every character has a code point that escapes may name. -/
lemma scalar?_toNat (c : Char) : scalar? c.toNat = some c := by
  unfold scalar?
  have valid : c.toNat < 0xD800 ∨ 0xDFFF < c.toNat ∧ c.toNat < 0x110000 := c.valid
  rw [if_pos valid, Char.ofNat_toNat]

/-- There is a value for each digit. -/
lemma length_of_mapM_digit? {digits : List Char} {values : List Nat}
    (read : (digits.mapM fun d => Text.digit? 16 d.toNat) = some values) :
    values.length = digits.length := by
  induction digits generalizing values with
  | nil =>
      cases read
      rfl
  | cons digit digits ih =>
      simp only [List.mapM_cons, Option.bind_eq_bind, Option.bind_eq_some_iff] at read
      obtain ⟨first, -, more, read, ⟨⟩⟩ := read
      rw [List.length_cons, List.length_cons, ih read]

/-- A code point is read from its digits. -/
lemma codePoint_of_digits {digits : List Char} {values : List Nat}
    (read : (digits.mapM fun d => Text.digit? 16 d.toNat) = some values)
    (value_eq : Text.ofDigits 16 values = c.toNat) (rest : List Char) :
    codePoint digits.length (digits ++ rest) = some (c, rest) := by
  unfold codePoint
  rw [List.take_left, read, List.drop_left]
  show (if values.length = digits.length then _ else _) = _
  rw [if_pos (length_of_mapM_digit? read), value_eq, scalar?_toNat]
  rfl

/-- **A character is read from each of its spellings**, whatever follows. -/
lemma basicChar_of_spells (spells : SpellsChar c piece) (rest : List Char) :
    basicChar (piece ++ rest) = some (c, rest) := by
  cases spells with
  | plain plain notQuote notBackslash =>
      rw [List.singleton_append]
      unfold basicChar
      split
      · next same => exact absurd (List.cons.inj same).1 notQuote
      · next same => exact absurd (List.cons.inj same).1 notBackslash
      · next same =>
          cases same
          rw [if_pos plain]
      · next same => cases same
  | letter known =>
      simp only [escapeLetters, List.mem_cons, Prod.mk.injEq, List.not_mem_nil, or_false] at known
      rcases known with ⟨rfl, rfl⟩ | ⟨rfl, rfl⟩ | ⟨rfl, rfl⟩ | ⟨rfl, rfl⟩ | ⟨rfl, rfl⟩ |
        ⟨rfl, rfl⟩ | ⟨rfl, rfl⟩ <;> rfl
  | @code mark digits values known read value_eq =>
      have point := codePoint_of_digits read value_eq rest
      simp only [codeMarks, List.mem_cons, Prod.mk.injEq, List.not_mem_nil, or_false] at known
      rcases known with ⟨rfl, length_eq⟩ | ⟨rfl, length_eq⟩
      all_goals
        rw [length_eq] at point
        exact point

/-! ## Texts -/

/-- Whether characters spell a text between quotation marks. -/
def SpellsText (text : String) (written : List Char) : Prop :=
  ∃ pieces, List.Forall₂ SpellsChar text.toList pieces ∧
    written = '"' :: (pieces.flatten ++ ['"'])

/-- A spelling of a character starts with something, and not with a quotation mark. -/
lemma SpellsChar.exists_cons (spells : SpellsChar c piece) :
    ∃ first more, piece = first :: more ∧ first ≠ '"' := by
  cases spells with
  | plain _ notQuote _ => exact ⟨_, _, rfl, notQuote⟩
  | letter _ => exact ⟨_, _, rfl, by decide⟩
  | code _ _ _ => exact ⟨_, _, rfl, by decide⟩

/-- The characters of a text are read one after another, up to the quotation mark behind them. -/
lemma reads_basicChar {chars : List Char} {pieces : List (List Char)}
    (spells : List.Forall₂ SpellsChar chars pieces) (rest : List Char) :
    Step.Reads basicChar (pieces.flatten ++ '"' :: rest) chars ('"' :: rest) := by
  induction spells with
  | nil => exact .stop rfl
  | @cons c piece chars pieces spells _ ih =>
      rw [List.flatten_cons, List.append_assoc]
      refine .next (basicChar_of_spells spells _) ?_ ih
      obtain ⟨first, more, rfl, -⟩ := spells.exists_cons
      simp only [List.length_append, List.length_cons]
      omega

/-- Without two more quotation marks behind it, one starts a text on one line. -/
lemma text_of_quote {s : List Char} (single : ∀ more, s ≠ '"' :: '"' :: more) :
    text ('"' :: s) = basicBody s := by
  unfold text
  split
  · next same => exact absurd (List.cons.inj same).2 (single _)
  · next same => cases same
  · next same =>
      cases same
      rfl
  · next same => cases same
  · next notQuote _ => exact absurd rfl (notQuote s)

/-- **A text is read from each of its spellings**, unless a quotation mark follows. -/
lemma text_of_spells {value : String} {written rest : List Char}
    (spells : SpellsText value written) (ends : rest.head? ≠ some '"') :
    text (written ++ rest) = some (value, rest) := by
  obtain ⟨pieces, spells, rfl⟩ := spells
  have single : ∀ more, pieces.flatten ++ ['"'] ++ rest ≠ '"' :: '"' :: more := by
    intro more same
    rcases pieces with _ | ⟨piece, pieces⟩
    · have rest_eq : rest = '"' :: more := (List.cons.inj same).2
      rw [rest_eq] at ends
      exact ends rfl
    · obtain ⟨c, chars, spells, -, -⟩ := List.forall₂_cons_right_iff.1 spells
      obtain ⟨first, others, rfl, notQuote⟩ := spells.exists_cons
      exact notQuote (List.cons.inj same).1
  rw [List.cons_append, text_of_quote single, List.append_assoc, List.singleton_append]
  unfold basicBody
  rw [(reads_basicChar spells rest).many_eq]
  show some (String.ofList value.toList, rest) = _
  rw [String.ofList_toList]

/-- A control has two hexadecimal digits. -/
lemma digits_of_control : ∀ n < 0x80, (['0', '0', Char.ofNat (Text.upperDigit (n / 16)),
    Char.ofNat (Text.upperDigit (n % 16))].mapM fun d => Text.digit? 16 d.toNat) =
      some [0, 0, n / 16, n % 16] := by
  decide +kernel

/-- What is written for a character spells it. -/
lemma spellsChar_writtenChar (c : Char) : SpellsChar c (writtenChar c) := by
  have of_toNat : ∀ d : Char, c.toNat = d.toNat → c = d := fun d => Char.toNat_inj.1
  unfold writtenChar
  split_ifs with quote backslash isB isT isN isF isR control
  · exact .letter (by rw [quote]; decide)
  · exact .letter (by rw [backslash]; decide)
  · exact .letter (by rw [of_toNat '\x08' isB]; decide)
  · exact .letter (by rw [of_toNat '\t' isT]; decide)
  · exact .letter (by rw [of_toNat '\n' isN]; decide)
  · exact .letter (by rw [of_toNat '\x0c' isF]; decide)
  · exact .letter (by rw [of_toNat '\r' isR]; decide)
  · have small : c.toNat < 0x80 := by omega
    refine .code List.mem_cons_self (digits_of_control c.toNat small) ?_
    simp only [Text.ofDigits, List.foldl_cons, List.foldl_nil]
    omega
  · refine .plain ?_ quote backslash
    unfold isPlain
    simp only [Bool.or_eq_true, Bool.and_eq_true, decide_eq_true_eq]
    omega

/-- What is written for a text spells it. -/
lemma spellsText_writtenText (text : String) : SpellsText text (writtenText text) := by
  refine ⟨text.toList.map writtenChar, ?_, ?_⟩
  · rw [List.forall₂_map_right_iff, List.forall₂_same]
    exact fun c _ => spellsChar_writtenChar c
  · rfl

/-! ## Whole numbers -/

/-- The characters that may follow a value: a blank, the start of a comment or of a line end, a
comma, or the brace behind a table. -/
def endMarks : List Char := [' ', '\t', '#', '\n', '\r', ',', '\x7d']

/-- Whether a value may end in front of these characters. -/
def EndsValue (rest : List Char) : Prop :=
  ∃ c ∈ endMarks, ∃ more, rest = c :: more

/-- A character that ends a value is no digit. -/
lemma digit?_eq_none_of_endMark : ∀ c ∈ endMarks, Text.digit? 10 c.toNat = none :=
  -- the marks are tried, and not all characters
  @of_decide_eq_true _ (List.decidableBAll _ _) rfl

/-- No further digit is read where a value ends. -/
lemma EndsValue.furtherDigit_eq_none {rest : List Char} (ends : EndsValue rest) :
    furtherDigit 10 rest = none := by
  obtain ⟨c, among, more, rfl⟩ := ends
  simp only [endMarks, List.mem_cons, List.not_mem_nil, or_false] at among
  rcases among with rfl | rfl | rfl | rfl | rfl | rfl | rfl <;> rfl

/-- A decimal digit is read as its value. -/
lemma digit_cons {c : Char} (isDigit : c.isDigit = true) (s : List Char) :
    digit 10 (c :: s) = some (decimalValue c, s) := by
  show (Text.digit? 10 c.toNat).map (fun value => (value, s)) = _
  rw [digit?_of_isDigit isDigit]
  rfl

/-- A further decimal digit is read as its value. -/
lemma furtherDigit_cons {c : Char} (isDigit : c.isDigit = true) (s : List Char) :
    furtherDigit 10 (c :: s) = some (decimalValue c, s) := by
  unfold furtherDigit
  split
  · next same =>
      cases same
      cases isDigit
  · exact digit_cons isDigit s

/-- Decimal digits are read one after another. -/
lemma reads_furtherDigit {chars rest : List Char} (areDigits : ∀ c ∈ chars, c.isDigit = true)
    (ends : EndsValue rest) :
    Step.Reads (furtherDigit 10) (chars ++ rest) (chars.map decimalValue) rest := by
  induction chars with
  | nil => exact .stop ends.furtherDigit_eq_none
  | cons c chars ih =>
      refine .next (furtherDigit_cons (areDigits c List.mem_cons_self) _) ?_
        (ih fun other among => areDigits other (List.mem_cons_of_mem _ among))
      simp

/-- Decimal digits that end a value are read together. -/
lemma digits_of_areDigits {c : Char} {chars rest : List Char}
    (areDigits : ∀ d ∈ c :: chars, d.isDigit = true) (ends : EndsValue rest) :
    digits 10 (c :: chars ++ rest) = some ((c :: chars).map decimalValue, rest) := by
  unfold digits
  rw [List.cons_append, digit_cons (areDigits c List.mem_cons_self)]
  show some (_ :: (Text.Step.many (furtherDigit 10) (chars ++ rest)).1,
    (Text.Step.many (furtherDigit 10) (chars ++ rest)).2) = _
  rw [(reads_furtherDigit (fun d among => areDigits d (List.mem_cons_of_mem _ among)) ends).many_eq]
  rfl

/-- A number is written with digits. -/
lemma isDigit_of_mem_writtenNat {n : Nat} {c : Char} (among : c ∈ writtenNat n) :
    c.isDigit = true :=
  Nat.isDigit_of_mem_toDigits (by decide) (by decide) among

/-- The digits of a positive number do not start with a zero. -/
lemma exists_cons_writtenNat {n : Nat} (positive : 0 < n) :
    ∃ first more, writtenNat n = first :: more ∧ first ≠ '0' := by
  unfold writtenNat
  induction n using Nat.strongRecOn with
  | _ n ih =>
      by_cases small : n < 10
      · refine ⟨n.digitChar, [], Nat.toDigits_of_lt_base small, ?_⟩
        intro zero
        have code_eq := congrArg Char.toNat zero
        rw [Nat.toNat_digitChar_of_lt_ten small] at code_eq
        have : '0'.toNat = 0x30 := rfl
        omega
      · obtain ⟨first, more, digits_eq, notZero⟩ := ih (n / 10) (by omega) (by omega)
        refine ⟨first, more ++ [(n % 10).digitChar], ?_, notZero⟩
        rw [Nat.toDigits_of_base_le (by decide) (by omega), digits_eq, List.cons_append]

/-- The digits before the end of a value are all there are. -/
lemma leadingDigits_writtenNat (n : Nat) {rest : List Char} (ends : EndsValue rest) :
    leadingDigits (writtenNat n ++ rest) = some ((writtenNat n).map decimalValue, rest) := by
  rcases Nat.eq_zero_or_pos n with rfl | positive
  · rfl
  · obtain ⟨first, more, written_eq, notZero⟩ := exists_cons_writtenNat positive
    have areDigits : ∀ d ∈ first :: more, d.isDigit = true := by
      rw [← written_eq]
      exact fun d => isDigit_of_mem_writtenNat
    rw [written_eq]
    unfold leadingDigits
    split
    · next same => exact absurd (List.cons.inj same).1 notZero
    · exact digits_of_areDigits areDigits ends

/-! ## No date, no time -/

/-- What is behind the digits at the start of characters. -/
def behindDigits (s : List Char) : List Char :=
  s.dropWhile fun c => (Text.digit? 10 c.toNat).isSome

/-- Two digits that are read leave the same behind the digits. -/
lemma behindDigits_of_twoDigits {low high n : Nat} {s rest : List Char}
    (read : twoDigits low high s = some (n, rest)) : behindDigits s = behindDigits rest := by
  unfold twoDigits at read
  split at read
  · next a b s =>
    simp only [Option.bind_eq_bind, Option.bind_eq_some_iff] at read
    obtain ⟨tens, isTens, ones, isOnes, read⟩ := read
    split_ifs at read
    cases read
    unfold behindDigits
    rw [List.dropWhile_cons_of_pos (by rw [isTens]; rfl),
      List.dropWhile_cons_of_pos (by rw [isOnes]; rfl)]
  · cases read

/-- A character that is expected is there. -/
lemma eq_of_expect {c : Char} {s rest : List Char} (read : expect c s = some rest) :
    s = c :: rest := by
  unfold expect at read
  split at read
  · split_ifs at read with same
    cases read
    rw [same]
  · cases read

/-- A date has a hyphen behind its first digits. -/
lemma behindDigits_of_date {s rest : List Char} (read : date s = some rest) :
    ∃ more, behindDigits s = '-' :: more := by
  unfold date at read
  simp only [Option.bind_eq_bind, Option.bind_eq_some_iff] at read
  obtain ⟨⟨_, s₁⟩, century, ⟨_, s₂⟩, year, s₃, hyphen, -⟩ := read
  have behind : s₂ = '-' :: s₃ := eq_of_expect hyphen
  rw [behindDigits_of_twoDigits century, behindDigits_of_twoDigits year, behind]
  exact ⟨s₃, rfl⟩

/-- A time has a colon behind its first digits. -/
lemma behindDigits_of_time {s rest : List Char} (read : time s = some rest) :
    ∃ more, behindDigits s = ':' :: more := by
  unfold time at read
  simp only [Option.bind_eq_bind, Option.bind_eq_some_iff] at read
  obtain ⟨⟨_, s₁⟩, hour, s₂, colon, -⟩ := read
  have behind : s₁ = ':' :: s₂ := eq_of_expect colon
  rw [behindDigits_of_twoDigits hour, behind]
  exact ⟨s₂, rfl⟩

/-- Digits that end a value are neither a date nor a time. -/
lemma moment_writtenNat (n : Nat) {rest : List Char} (ends : EndsValue rest) :
    moment (writtenNat n ++ rest) = none := by
  have behind : behindDigits (writtenNat n ++ rest) = rest := by
    unfold behindDigits
    rw [List.dropWhile_append_of_pos fun c among => by
      rw [digit?_of_isDigit (isDigit_of_mem_writtenNat among)]
      rfl]
    obtain ⟨c, among, more, rfl⟩ := ends
    rw [List.dropWhile_cons_of_neg (by rw [digit?_eq_none_of_endMark c among]; decide)]
  have apart : ∀ c ∉ endMarks, ∀ more, rest ≠ c :: more := by
    rintro c notAmong more rfl
    obtain ⟨_, among, _, same⟩ := ends
    cases same
    exact notAmong among
  unfold moment
  rcases isDate : date (writtenNat n ++ rest) with _ | after
  · dsimp only
    rcases isTime : time (writtenNat n ++ rest) with _ | after
    · rfl
    · obtain ⟨more, colon⟩ := behindDigits_of_time isTime
      exact absurd (behind.symm.trans colon) (apart ':' (by decide) more)
  · obtain ⟨more, hyphen⟩ := behindDigits_of_date isDate
    exact absurd (behind.symm.trans hyphen) (apart '-' (by decide) more)

/-- A number that 64 bits hold is an integer of a document. -/
lemma integer?_signed {n : Nat} (small : n < 0x8000000000000000) :
    integer? (signed false n) = some (.integer n) := by
  unfold integer? signed
  simp only [Bool.false_eq_true, if_false]
  have low : -0x8000000000000000 ≤ (n : Int) := by omega
  have high : (n : Int) < 0x8000000000000000 := by omega
  rw [if_pos ⟨low, high⟩]

/-- Where a value ends, no fraction and no exponent follow. -/
lemma decimal_writtenNat {n : Nat} (small : n < 0x8000000000000000) {rest : List Char}
    (ends : EndsValue rest) : decimal false (writtenNat n ++ rest) = some (.integer n, rest) := by
  unfold decimal
  rw [leadingDigits_writtenNat n ends]
  obtain ⟨c, among, more, rfl⟩ := ends
  simp only [endMarks, List.mem_cons, List.not_mem_nil, or_false] at among
  simp only [Option.bind_eq_bind, Option.bind_some, writtenNat, ofDigits_toDigits,
    integer?_signed small, Option.pure_def]
  rcases among with rfl | rfl | rfl | rfl | rfl | rfl | rfl <;> exact if_neg (by rintro ⟨⟩)

/-- **A whole number is read from its decimal digits**, if 64 bits hold it. -/
lemma number_writtenNat {n : Nat} (small : n < 0x8000000000000000) {rest : List Char}
    (ends : EndsValue rest) : number (writtenNat n ++ rest) = some (.integer n, rest) := by
  have isDecimal := decimal_writtenNat small ends
  rcases Nat.eq_zero_or_pos n with rfl | positive
  · obtain ⟨c, among, more, rfl⟩ := ends
    simp only [endMarks, List.mem_cons, List.not_mem_nil, or_false] at among
    rcases among with rfl | rfl | rfl | rfl | rfl | rfl | rfl <;> exact isDecimal
  · obtain ⟨first, more, written_eq, notZero⟩ := exists_cons_writtenNat positive
    have isDigit : first.isDigit = true :=
      isDigit_of_mem_writtenNat (n := n) (by rw [written_eq]; exact List.mem_cons_self)
    have notMark : ∀ c : Char, c.isDigit = false → first ≠ c := by
      rintro c notDigit rfl
      rw [isDigit] at notDigit
      cases notDigit
    rw [written_eq, List.cons_append] at isDecimal ⊢
    have unsigned : sign (first :: (more ++ rest)) = (false, first :: (more ++ rest)) := by
      unfold sign
      split
      · next same => exact absurd (List.cons.inj same).1 (notMark '+' rfl)
      · next same => exact absurd (List.cons.inj same).1 (notMark '-' rfl)
      · rfl
    unfold number
    split
    · next same => exact absurd (List.cons.inj same).1 notZero
    · next same => exact absurd (List.cons.inj same).1 notZero
    · next same => exact absurd (List.cons.inj same).1 notZero
    · rw [unsigned]
      dsimp only
      split
      · next same => exact absurd (List.cons.inj same).1 (notMark 'i' rfl)
      · next same => exact absurd (List.cons.inj same).1 (notMark 'n' rfl)
      · exact isDecimal

/-! ## Values that do not nest -/

/-- Whether characters spell a value that does not nest: a text, a whole number in decimal that 64
bits hold, or a truth value. -/
inductive Spells : Value → List Char → Prop
  | text {value : String} {written : List Char} (spells : SpellsText value written) :
      Spells (.text value) written
  | integer {n : Nat} (small : n < 0x8000000000000000) : Spells (.integer n) (writtenNat n)
  | boolean (b : Bool) : Spells (.boolean b) (writtenBool b)

/-- A number starts with a digit. -/
lemma exists_digit_writtenNat (n : Nat) :
    ∃ first more, writtenNat n = first :: more ∧ first.isDigit = true := by
  rcases written_eq : writtenNat n with _ | ⟨first, more⟩
  · exact absurd written_eq Nat.toDigits_ne_nil
  · exact ⟨first, more, rfl, isDigit_of_mem_writtenNat (n := n) (by rw [written_eq]; simp)⟩

/-- What starts with a digit is neither a truth value nor a text. -/
lemma scalar_of_isDigit {first : Char} (isDigit : first.isDigit = true) {more : List Char}
    (notMoment : moment (first :: more) = none) :
    scalar (first :: more) = number (first :: more) := by
  have notMark : ∀ c : Char, c.isDigit = false → first ≠ c := by
    rintro c notDigit rfl
    rw [isDigit] at notDigit
    cases notDigit
  have notText : text (first :: more) = none := by
    unfold text
    split
    · next same => exact absurd (List.cons.inj same).1 (notMark '"' rfl)
    · next same => exact absurd (List.cons.inj same).1 (notMark '\'' rfl)
    · next same => exact absurd (List.cons.inj same).1 (notMark '"' rfl)
    · next same => exact absurd (List.cons.inj same).1 (notMark '\'' rfl)
    · rfl
  unfold scalar
  split
  · next same => exact absurd (List.cons.inj same).1 (notMark 't' rfl)
  · next same => exact absurd (List.cons.inj same).1 (notMark 'f' rfl)
  · rw [notText, notMoment]

/-- **A value is read from each of its spellings**, where a value may end. -/
lemma scalar_of_spells {content : Value} {written rest : List Char}
    (spells : Spells content written) (ends : EndsValue rest) :
    scalar (written ++ rest) = some (content, rest) := by
  cases spells with
  | text spells =>
      have notQuote : rest.head? ≠ some '"' := by
        obtain ⟨c, among, more, rfl⟩ := ends
        rintro ⟨⟩
        exact absurd among (by decide)
      have isText := text_of_spells spells notQuote
      obtain ⟨pieces, -, rfl⟩ := spells
      rw [List.cons_append] at isText ⊢
      unfold scalar
      split
      · next same => exact absurd (List.cons.inj same).1 (by decide)
      · next same => exact absurd (List.cons.inj same).1 (by decide)
      · rw [isText]
  | @integer n small =>
      have notMoment := moment_writtenNat n ends
      have isNumber := number_writtenNat small ends
      obtain ⟨first, more, written_eq, isDigit⟩ := exists_digit_writtenNat n
      rw [written_eq, List.cons_append] at notMoment isNumber ⊢
      rw [scalar_of_isDigit isDigit notMoment, isNumber]
  | boolean b => cases b <;> rfl

/-- Spellings of values start with neither a bracket nor a brace, nor with a blank. -/
lemma Spells.exists_cons {content : Value} {written : List Char} (spells : Spells content written) :
    ∃ first more, written = first :: more ∧ first ≠ '[' ∧ first ≠ '\x7b' ∧
      isBlank first = false := by
  cases spells with
  | text spells =>
      obtain ⟨pieces, -, rfl⟩ := spells
      exact ⟨_, _, rfl, by decide, by decide, by decide⟩
  | @integer n small =>
      obtain ⟨first, more, written_eq, isDigit⟩ := exists_digit_writtenNat n
      refine ⟨first, more, written_eq, ?_, ?_, ?_⟩
      · rintro rfl
        cases isDigit
      · rintro rfl
        cases isDigit
      · unfold isBlank
        simp only [Bool.or_eq_false_iff, decide_eq_false_iff_not]
        constructor <;> (rintro rfl; cases isDigit)
  | boolean b => cases b <;> exact ⟨_, _, rfl, by decide, by decide, by decide⟩

end AppCatalog.Toml
