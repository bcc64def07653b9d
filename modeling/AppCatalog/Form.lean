import AppCatalog.Text.Digit
import AppCatalog.Text.Utf8

/-!
# Form parameters

The `application/x-www-form-urlencoded` format over bytes: pieces between ampersands, empty
pieces skipped, a name and a value around the first equals sign, a plus sign for a space, percent
escapes, and UTF-8 read leniently. Reading never fails: bytes that decode to nothing sensible
give odd parameters or none.
-/

namespace AppCatalog

namespace Form

/-! ## One name or value -/

/-- Takes one byte of the decoded form: an escape of a percent sign and two hexadecimal digits,
or a byte that stands for itself. -/
def escapeStep : Text.Step UInt8 UInt8
  | [] => none
  | 0x25 :: high :: low :: rest =>
    match Text.digit? 16 high.toNat, Text.digit? 16 low.toNat with
    | some h, some l => some ((h * 16 + l).toUInt8, rest)
    | _, _ => some (0x25, high :: low :: rest)
  | byte :: rest => some (byte, rest)

/-- Taking a byte of the decoded form uses up at least one byte. -/
theorem escapeStep_shortens : escapeStep.Shortens := by
  intro s item rest taken
  unfold escapeStep at taken
  split at taken
  · cases taken
  · split at taken <;> cases taken <;> simp +arith
  · cases taken
    simp

/-- A byte that is no percent sign stands for itself. -/
theorem escapeStep_of_ne {byte : UInt8} (plain : byte ≠ 0x25) (rest : Bytes) :
    escapeStep (byte :: rest) = some (byte, rest) := by
  unfold escapeStep
  split
  · rename_i sought
    cases sought
  · rename_i sought
    cases sought
    exact absurd rfl plain
  · rename_i sought
    cases sought
    rfl

/-- Decodes every percent escape exactly once; a percent sign without two digits stays. -/
def percentDecode (bytes : Bytes) : Bytes :=
  (escapeStep.many bytes).1

/-- No bytes decode to no bytes. -/
@[simp]
theorem percentDecode_nil : percentDecode [] = [] := rfl

/-- Decoding goes one byte of the decoded form at a time. -/
theorem percentDecode_of_step {bytes rest : Bytes} {byte : UInt8}
    (taken : escapeStep bytes = some (byte, rest)) :
    percentDecode bytes = byte :: percentDecode rest := by
  rw [percentDecode, Text.Step.many_eq escapeStep_shortens, taken]
  rfl

/-- A plus sign stands for a space. -/
def plusToSpace (bytes : Bytes) : Bytes :=
  bytes.map fun byte => if byte = 0x2B then 0x20 else byte

/-- The bytes that a written name or value stands for. -/
def decodeBytes (bytes : Bytes) : Bytes :=
  percentDecode (plusToSpace bytes)

/-- The text that a written name or value stands for. -/
def decodeText (bytes : Bytes) : String :=
  Utf8.decodeLossy (decodeBytes bytes)

/-! ## Pieces -/

/-- The written name of a piece, up to its first equals sign. -/
def nameOf (piece : Bytes) : Bytes :=
  piece.takeWhile (· != 0x3D)

/-- The written value of a piece, after its first equals sign; empty if it has none. -/
def valueOf (piece : Bytes) : Bytes :=
  (piece.dropWhile (· != 0x3D)).drop 1

/-- The non-empty pieces between ampersands. -/
def pieces (bytes : Bytes) : List Bytes :=
  (bytes.splitOn 0x26).filter (!·.isEmpty)

end Form

/-! ## Parameters -/

/-- Named texts in the order in which they were given; names may repeat. -/
structure Params where
  /-- The parameters, first to last. -/
  pairs : List (String × String)
  deriving Repr, DecidableEq

namespace Params

/-- No parameters. -/
def empty : Params := ⟨[]⟩

/-- The parameters that bytes in the form format hold. -/
def parse (bytes : Bytes) : Params :=
  ⟨(Form.pieces bytes).map fun piece =>
    (Form.decodeText (Form.nameOf piece), Form.decodeText (Form.valueOf piece))⟩

/-- The parameters of a request's query, if it has one. -/
def ofQuery : Option Bytes → Params
  | none => empty
  | some query => parse query

/-- The parameters of one source followed by those of another. -/
def chain (first second : Params) : Params :=
  ⟨first.pairs ++ second.pairs⟩

/-- The value of the first parameter of that name. -/
def get? (params : Params) (name : String) : Option String :=
  params.pairs.lookup name

/-- Parameters of the first source hide those of the second. -/
theorem get?_chain (first second : Params) (name : String) :
    (first.chain second).get? name = (first.get? name).or (second.get? name) := by
  simp only [get?, chain]
  induction first.pairs with
  | nil => simp
  | cons pair pairs ih =>
    obtain ⟨key, value⟩ := pair
    simp only [List.cons_append, List.lookup_cons]
    split
    · rfl
    · exact ih

/-- The value of the first parameter of that name, or the empty text. -/
def getOrEmpty (params : Params) (name : String) : String :=
  (params.get? name).getD ""

end Params
end AppCatalog
