import AppCatalog.Database.Error
import AppCatalog.Query.Text

/-!
# Functions on values

What the functions that expressions call compute. Texts are looked at in units of code points, and
all functions on the case of letters know the Latin alphabet alone.
-/

namespace AppCatalog
namespace Value

/-! ## Characters -/

/-- The code points of a text that is cut at its first zero. -/
def pointsOf (encoding : Encoding) (value : Value) : List Nat :=
  Encoding.points ((value.textBytes encoding).toList)

/-- The text of code points. -/
def ofPoints (encoding : Encoding) (points : List Nat) : Value :=
  ofUtf8 encoding (points.flatMap Encoding.narrow).toArray

/-- A code point with the small letter in place of a capital one. -/
def lowerPoint (point : Nat) : Nat := if 65 ≤ point ∧ point ≤ 90 then point + 32 else point

/-! ## Forms of texts -/

/-- What a form of texts is written with. -/
structure FormRule where
  /-- Stands for any characters. -/
  any : Nat
  /-- Stands for one character. -/
  one : Nat
  /-- Whether sets of characters stand in brackets. -/
  hasSets : Bool
  /-- Whether capital letters are like small ones. -/
  ignoresCase : Bool

/-- Forms without regard to case. -/
def likeRule : FormRule := ⟨37, 95, false, true⟩

/-- Forms with sets of characters. -/
def globRule : FormRule := ⟨42, 63, true, false⟩

/-- Whether a character belongs to a set, of which the rest is given, and what follows the set. -/
def inSet (point : Nat) : (rounds : Nat) → (previous : Option Nat) → List Nat →
    Option (Bool × List Nat)
  | 0, _, _ => none
  | _, _, [] => none
  | rounds + 1, previous, item :: rest =>
    if item = 93 then some (false, rest)
    else
      match previous, item, rest with
      | some low, 45, high :: more =>
        if high = 93 then
          (inSet point rounds (some item) rest).map fun (found, rest) =>
            (found || point = item, rest)
        else
          (inSet point rounds none more).map fun (found, rest) =>
            (found || (low ≤ point && point ≤ high), rest)
      | _, _, _ =>
        (inSet point rounds (some item) rest).map fun (found, rest) =>
          (found || point = item, rest)

/-- Whether a character belongs to the set behind an opening bracket, and what follows the set. -/
def setAccepts (point : Nat) (form : List Nat) : Option (Bool × List Nat) :=
  let (negated, form) := match form with
    | 94 :: rest => (true, rest)
    | form => (false, form)
  let (first, form) := match form with
    | 93 :: rest => (point == 93, rest)
    | form => (false, form)
  (inSet point (form.length + 1) none form).map fun (found, rest) =>
    ((found || first) != negated, rest)

/-- Whether a text has a form. -/
def hasForm (rule : FormRule) (escape? : Option Nat) :
    (rounds : Nat) → (form written : List Nat) → Bool
  | 0, _, _ => false
  | _, [], written => written.isEmpty
  | rounds + 1, item :: form, written =>
    let same (a b : Nat) : Bool :=
      if rule.ignoresCase then lowerPoint a == lowerPoint b else a == b
    if some item = escape? then
      match form, written with
      | wanted :: form, point :: written =>
        same wanted point && hasForm rule escape? rounds form written
      | _, _ => false
    else if item = rule.any then
      hasForm rule escape? rounds form written ||
        match written with
        | [] => false
        | _ :: written => hasForm rule escape? rounds (item :: form) written
    else
      match written with
      | [] => false
      | point :: written =>
        if item = rule.one then hasForm rule escape? rounds form written
        else if rule.hasSets && item = 91 then
          match setAccepts point form with
          | some (true, form) => hasForm rule escape? rounds form written
          | _ => false
        else same item point && hasForm rule escape? rounds form written

/-- Whether a value has a form. -/
def like (encoding : Encoding) (rule : FormRule) (form value : Value) (escape? : Option Value) :
    Except SqlError Value := do
  if form.isNull || value.isNull || escape?.any isNull then return null
  let form := (form.pointsOf encoding).takeWhile (· ≠ 0)
  let written := (value.pointsOf encoding).takeWhile (· ≠ 0)
  let escape? ← match escape?.map (·.pointsOf encoding) with
    | none => pure none
    | some [point] => pure (some point)
    | some _ => throw (.senseless "ESCAPE expression must be a single character")
  let rounds := (form.length + 1) * (written.length + 1) + form.length
  return ofTruth (some (hasForm rule escape? rounds form written))

/-! ## Others -/

/-- The digits of the bytes that write a value. -/
def hex (encoding : Encoding) (value : Value) : Value :=
  let bytes := match value with
    | text bytes => bytes
    | blob bytes => bytes
    | value => value.textBytes encoding
  ofBytes encoding (bytes.toList.flatMap hexPair)

/-- A value as it is written in a statement. -/
def quoted (encoding : Encoding) (value : Value) : Value :=
  let bytes : Bytes := match value with
    | null => Utf8.encode "NULL"
    | integer n => Utf8.encode (toString n)
    | real bits => Utf8.encode (Double.ofBits bits).written
    | text bytes =>
      let inner := untilZero (encoding.toUtf8 bytes).toList
      39 :: inner.flatMap (fun byte => if byte = 39 then [39, 39] else [byte]) ++ [39]
    | blob bytes => 88 :: 39 :: bytes.toList.flatMap hexPair ++ [39]
  ofBytes encoding bytes

/-- The name of the kind of a value. -/
def kindName : Value → String
  | null => "null"
  | integer _ => "integer"
  | real _ => "real"
  | text _ => "text"
  | blob _ => "blob"

/-- The number without its sign. -/
def magnitude (encoding : Encoding) (value : Value) : Except SqlError Value :=
  match value with
  | null => .ok null
  | integer n =>
    if n = minInteger then .error (.senseless "integer overflow") else .ok (integer n.natAbs)
  | value =>
    let number := value.toDouble encoding
    .ok (ofDouble (if number.isNegative then number.negate else number))

/-- The sign of a number, if the value is one: a whole number, or a text that is one. -/
def signum (encoding : Encoding) (value : Value) : Value :=
  match Affinity.numeric.apply encoding value with
  | integer n => integer n.sign
  | real bits =>
    let number := Double.ofBits bits
    integer (if number.isZero then 0 else if number.isNegative then -1 else 1)
  | _ => null

/-- A number rounded to some decimal places, a half away from zero. -/
def rounded (encoding : Encoding) (value : Value) (places? : Option Value) : Value :=
  if value.isNull || places?.any isNull then null
  else
    let given : Int := halved ((places?.map (toInteger encoding)).getD 0)
    let places := (max 0 (min 30 given)).toNat
    ofDouble ((value.toDouble encoding).roundedTo places)

/-- The least or the greatest of some values; nothing if one of them is nothing. Of equal ones the
last is taken if `isLate`. -/
def extreme (encoding : Encoding) (collation : Collation) (wanted : Ordering) (isLate : Bool) :
    List Value → Value
  | [] => null
  | value :: values =>
    if (value :: values).any isNull then null
    else values.foldl (fun best value =>
      let order := value.compareTo encoding collation best
      if order = wanted || (isLate && order = .eq) then value else best) value

/-- Texts put together with another one between them. -/
def joined (encoding : Encoding) (between : Block) : List Value → Block
  | [] => #[]
  | [value] => value.textBytes encoding
  | value :: values => value.textBytes encoding ++ between ++ joined encoding between values

/-- What a function of that name computes, if it computes anything here. -/
def call? (encoding : Encoding) (collation : Collation) (name : String) (arguments : List Value) :
    Option (Except SqlError Value) :=
  let text (value : String) : Value := ofString encoding value
  match name, arguments with
  | "ifnull", [a, b] => some (.ok (if a.isNull then b else a))
  | "coalesce", values => some (.ok ((values.find? (!·.isNull)).getD null))
  | "nullif", [a, b] =>
    let isSame := !a.isNull && a.compareTo encoding collation b = .eq
    some (.ok (if isSame then null else a))
  | "iif", [a, b, c] => some (.ok (if a.truth? encoding = some true then b else c))
  | "likely", [a] => some (.ok a)
  | "unlikely", [a] => some (.ok a)
  | "likelihood", [a, _] => some (.ok a)
  | "trim", a :: set => some (.ok (a.trim encoding true true set.head?))
  | "ltrim", a :: set => some (.ok (a.trim encoding true false set.head?))
  | "rtrim", a :: set => some (.ok (a.trim encoding false true set.head?))
  | "min", values => some (.ok (extreme encoding collation .lt true values))
  | "max", values => some (.ok (extreme encoding collation .gt false values))
  | "typeof", [a] => some (.ok (text a.kindName))
  | "length", [a] => some (.ok (a.length encoding))
  | "octet_length", [a] => some (.ok (a.byteLength encoding))
  | "instr", [a, b] => some (.ok (a.instr encoding b))
  | "unicode", [a] =>
    some (.ok (match (a.pointsOf encoding).head? with
      | some point => if point = 0 then null else integer point
      | none => null))
  | "char", values =>
    let point (value : Value) : Nat :=
      let n := value.toInteger encoding
      if n < 0 ∨ 0x10FFFF < n then 0xFFFD else n.toNat
    some (.ok (ofPoints encoding (values.map point)))
  | "abs", [a] => some (a.magnitude encoding)
  | "sign", [a] => some (.ok (a.signum encoding))
  | "round", a :: places => some (.ok (a.rounded encoding places.head?))
  | "upper", [a] => some (.ok (a.mapBytes encoding upperByte))
  | "lower", [a] => some (.ok (a.mapBytes encoding lowerByte))
  | "hex", [a] => some (.ok (a.hex encoding))
  | "quote", [a] => some (.ok (a.quoted encoding))
  | "replace", [a, b, c] => some (.ok (a.replace encoding b c))
  | "zeroblob", [a] => some (.ok (blob (Block.zeros (a.toInteger encoding).toNat)))
  | "concat", values => some (.ok (ofUtf8 encoding (joined encoding #[] values)))
  | "concat_ws", between :: values =>
    some (.ok (if between.isNull then null else
      ofUtf8 encoding (joined encoding (between.textBytes encoding)
        (values.filter (!·.isNull)))))
  | "substr", a :: place :: length => some (.ok (a.substring encoding place length.head?))
  | "substring", a :: place :: length => some (.ok (a.substring encoding place length.head?))
  | "like", form :: value :: escape => some (like encoding likeRule form value escape.head?)
  | "glob", [form, value] => some (like encoding globRule form value none)
  | _, _ => none

end Value
end AppCatalog
