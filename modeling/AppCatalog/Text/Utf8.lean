import AppCatalog.Text.Repetition

/-!
# UTF-8

Writing a text as bytes, and reading bytes as text. Reading goes unit by unit: a unit is a
well-formed character or a *maximal ill-formed subpart*, that is, the longest run of bytes that
begins a character but does not complete one, and at least one byte. Strict reading refuses
bytes with an ill-formed unit; lenient reading puts U+FFFD in place of each.
-/

namespace AppCatalog

/-- A finite sequence of bytes. -/
abbrev Bytes : Type := List UInt8

namespace Utf8

/-! ## Writing -/

/-- The bytes of one character, one to four of them. -/
def encodeChar (c : Char) : Bytes :=
  let n := c.toNat
  if n < 0x80 then
    [n.toUInt8]
  else if n < 0x800 then
    [(0xC0 + n / 0x40).toUInt8, (0x80 + n % 0x40).toUInt8]
  else if n < 0x10000 then
    [(0xE0 + n / 0x1000).toUInt8, (0x80 + n / 0x40 % 0x40).toUInt8, (0x80 + n % 0x40).toUInt8]
  else
    [(0xF0 + n / 0x40000).toUInt8, (0x80 + n / 0x1000 % 0x40).toUInt8,
      (0x80 + n / 0x40 % 0x40).toUInt8, (0x80 + n % 0x40).toUInt8]

/-- The bytes of a text. -/
def encode (text : String) : Bytes :=
  text.toList.flatMap encodeChar

/-! ## Reading -/

/-- Completes a character of which `value` is read and `count` bytes are missing, the next of
them between `low` and `high` and the others any continuation byte. Bytes that begin a
character but do not complete one are dropped together. -/
def finish : (count low high value : Nat) → Bytes → Option Char × Bytes
  | 0, _, _, value, rest => (some (Char.ofNat value), rest)
  | _ + 1, _, _, _, [] => (none, [])
  | count + 1, low, high, value, byte :: rest =>
    if low ≤ byte.toNat ∧ byte.toNat ≤ high then
      finish count 0x80 0xBF (value * 0x40 + byte.toNat % 0x40) rest
    else
      (none, byte :: rest)

/-- The unit that starts with the byte `first`: a character, or `none` for an ill-formed
subpart. The bounds on the second byte keep out overlong forms, surrogates and numbers above
U+10FFFF. -/
def unit (first : UInt8) (rest : Bytes) : Option Char × Bytes :=
  let n := first.toNat
  if n < 0x80 then
    (some (Char.ofNat n), rest)
  else if 0xC2 ≤ n ∧ n ≤ 0xDF then
    finish 1 0x80 0xBF (n - 0xC0) rest
  else if 0xE0 ≤ n ∧ n ≤ 0xEF then
    finish 2 (if n = 0xE0 then 0xA0 else 0x80) (if n = 0xED then 0x9F else 0xBF) (n - 0xE0) rest
  else if 0xF0 ≤ n ∧ n ≤ 0xF4 then
    finish 3 (if n = 0xF0 then 0x90 else 0x80) (if n = 0xF4 then 0x8F else 0xBF) (n - 0xF0) rest
  else
    (none, rest)

/-- Takes one unit off the front. -/
def unitStep : Text.Step UInt8 (Option Char)
  | [] => none
  | first :: rest => some (unit first rest)

/-- The units of a byte sequence, in order. -/
def units (bytes : Bytes) : List (Option Char) :=
  (unitStep.many bytes).1

/-- The character that stands for an ill-formed subpart. -/
def replacement : Char := '\uFFFD'

/-- The text of any bytes, with the replacement character for each ill-formed subpart. -/
def decodeLossy (bytes : Bytes) : String :=
  String.ofList ((units bytes).map (·.getD replacement))

/-- The text of well-formed bytes; `none` if a subpart is ill-formed. -/
def decode? (bytes : Bytes) : Option String :=
  let read := units bytes
  if read.all Option.isSome then some (String.ofList (read.map (·.getD replacement))) else none

/-! ## One unit is at least one byte -/

/-- Completing a character never gives bytes back. -/
theorem length_finish_le (count low high value : Nat) (bytes : Bytes) :
    (finish count low high value bytes).2.length ≤ bytes.length := by
  induction bytes generalizing count low high value with
  | nil => cases count <;> simp [finish]
  | cons byte rest ih =>
    cases count with
    | zero => simp [finish]
    | succ count =>
      simp only [finish]
      split
      · exact Nat.le_succ_of_le (ih ..)
      · simp

/-- A unit leaves at most the bytes after its first one. -/
theorem length_unit_le (first : UInt8) (rest : Bytes) :
    (unit first rest).2.length ≤ rest.length := by
  simp only [unit]
  split
  · simp
  · split
    · exact length_finish_le ..
    · split
      · exact length_finish_le ..
      · split
        · exact length_finish_le ..
        · simp

/-- Reading a unit shortens the bytes. -/
theorem unitStep_shortens : unitStep.Shortens := by
  intro s item rest read
  cases s with
  | nil => simp [unitStep] at read
  | cons first tail =>
    simp only [unitStep, Option.some.injEq] at read
    have := length_unit_le first tail
    rw [read] at this
    simpa using Nat.lt_succ_of_le this

/-- No bytes, no units. -/
@[simp]
theorem units_nil : units [] = [] := rfl

/-- The units of a non-empty byte sequence are its first one and those of what it leaves. -/
theorem units_cons (first : UInt8) (rest : Bytes) :
    units (first :: rest) = (unit first rest).1 :: units (unit first rest).2 := by
  rw [units, Text.Step.many_eq unitStep_shortens]
  rfl

/-! ## Where bytes are ill-formed -/

/-- The first ill-formed subpart of some bytes. -/
structure Flaw where
  /-- The number of bytes before it. -/
  start : Nat
  /-- The number of its bytes; none if the bytes end before its character does. -/
  length? : Option Nat
  deriving Repr, DecidableEq

/-- Whether a byte begins a character of several bytes. -/
def isLead (byte : UInt8) : Bool := 0xC2 ≤ byte.toNat && byte.toNat ≤ 0xF4

/-- The first ill-formed subpart of bytes that stand behind others. -/
def flawFrom (start : Nat) : Bytes → Option Flaw
  | [] => none
  | first :: rest =>
    let left := (unit first rest).2
    match (unit first rest).1 with
    | some c => flawFrom (start + (encodeChar c).length) left
    | none =>
      let length := rest.length + 1 - left.length
      some { start, length? := if left = [] ∧ isLead first then none else some length }
termination_by bytes => bytes.length
decreasing_by exact Nat.lt_succ_of_le (length_unit_le first rest)

/-- The first ill-formed subpart of some bytes. -/
def flaw? (bytes : Bytes) : Option Flaw := flawFrom 0 bytes

/-- What is said of an ill-formed subpart. -/
def Flaw.detail (flaw : Flaw) : String :=
  match flaw.length? with
  | some length =>
    "invalid utf-8 sequence of " ++ toString length ++ " bytes from index " ++ toString flaw.start
  | none => "incomplete utf-8 byte sequence from index " ++ toString flaw.start

end Utf8
end AppCatalog
