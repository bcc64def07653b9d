import AppCatalog.Records.Affinity
import AppCatalog.Schema.Expression

/-!
# Operators on values

What operators compute. Nothing in, nothing out: an operand without a value leads to none, but for
the two logical operators whose other operand decides. Whole numbers are computed with as long as
the result has 64 bits; beyond that, and with any other number, floating-point numbers are.
-/

namespace AppCatalog

namespace Double

/-- The sum of two numbers. -/
def add (a b : Double) : Double :=
  match a.ratio?, b.ratio? with
  | some (m, d), some (n, e) => ofFraction (m * e + n * d) (d * e)
  | none, none => if a = b then a else .nan
  | none, _ => a
  | _, none => b

/-- The number with the other sign. -/
def negate : Double → Double
  | finite negative significand exponent => .finite (!negative) significand exponent
  | infinite negative => .infinite (!negative)
  | nan => .nan

/-- Whether the number is zero. -/
def isZero (a : Double) : Bool := a.ratio?.any (·.1 = 0)

/-- The product of two numbers. -/
def multiply (a b : Double) : Double :=
  match a.ratio?, b.ratio? with
  | some (m, d), some (n, e) => ofFraction (m * n) (d * e)
  | _, _ =>
    if a = .nan ∨ b = .nan ∨ a.isZero ∨ b.isZero then .nan
    else .infinite (a.isNegative != b.isNegative)

/-- The quotient of two numbers, the second of which is not zero. -/
def divide (a b : Double) : Double :=
  match a.ratio?, b.ratio? with
  | some (m, d), some (n, e) => ofFraction (if n < 0 then -(m * e) else m * e) (d * n.natAbs)
  | none, some _ => if a = .nan then .nan else .infinite (a.isNegative != b.isNegative)
  | some _, none => if b = .nan then .nan else .finite false 0 minExponent
  | none, none => .nan

/-- The greatest size of a number that may have something behind the point. -/
def maxBroken : Int := 0x10000000000000

/-- The number rounded to some decimal places, a half away from zero. -/
def roundedTo (a : Double) (places : Nat) : Double :=
  match a with
  | finite negative significand exponent =>
    if a.compareRatio (-maxBroken, 1) = .lt ∨ a.compareRatio (maxBroken, 1) = .gt then a
    else if places = 0 then
      .ofInt (a.add (ofFraction (if negative then -1 else 1) 2)).truncate
    else
      let (value, last) := Wide.digitsOf significand exponent
      let cut := Nat.pow 10 (-last - places).toNat
      Wide.read negative ((2 * value + cut) / (2 * cut)) (max last (-places))
  | a => a

end Double

namespace Value

/-! ## Numbers -/

/-- The number at the start of a text, zero if there is none. -/
def leadingNumber (encoding : Encoding) (bytes : Block) : Value :=
  match Numeral.ofBytes? (encoding.toUtf8 bytes).toList with
  | some numeral => numeral.value
  | none => integer 0

/-- A value as a number. -/
def toNumber (encoding : Encoding) : Value → Value
  | text bytes => leadingNumber encoding bytes
  | blob bytes => leadingNumber encoding bytes
  | value => value

/-- A value as a floating-point number. -/
def toDouble (encoding : Encoding) (value : Value) : Double :=
  match value.toNumber encoding with
  | integer n => .ofInt n
  | real bits => .ofBits bits
  | _ => .ofInt 0

/-- A value as a whole number. Of a text only the digits before a point or an exponent count. -/
def toInteger (encoding : Encoding) : Value → Int
  | null => 0
  | integer n => n
  | real bits => (Double.ofBits bits).truncate
  | text bytes => Numeral.leadingWhole (encoding.toUtf8 bytes).toList
  | blob bytes => Numeral.leadingWhole (encoding.toUtf8 bytes).toList

/-- Whether a value counts as true; nothing does neither. -/
def truth? (encoding : Encoding) : Value → Option Bool
  | null => none
  | integer n => some (n ≠ 0)
  | value => some !(value.toDouble encoding).isZero

/-- The value of a truth. -/
def ofTruth : Option Bool → Value
  | none => null
  | some true => integer 1
  | some false => integer 0

/-- Whether a number has 64 bits. -/
def fits (n : Int) : Bool := minInteger ≤ n && n ≤ maxInteger

/-- Computes with two numbers: with whole ones if that is possible. -/
def arithmetic (encoding : Encoding) (whole : Int → Int → Option Int)
    (other : Double → Double → Double) (a b : Value) : Value :=
  match a, b with
  | null, _ => null
  | _, null => null
  | a, b =>
    let inDoubles := ofDouble (other (a.toDouble encoding) (b.toDouble encoding))
    match a.toNumber encoding, b.toNumber encoding with
    | integer m, integer n =>
      match whole m n with
      | some result => if fits result then integer result else inDoubles
      | none => inDoubles
    | _, _ => inDoubles

/-- The quotient; there is none by zero. -/
def divide (encoding : Encoding) (a b : Value) : Value :=
  if !a.isNull && !b.isNull && (b.toDouble encoding).isZero then null
  else arithmetic encoding (fun m n => some (m.tdiv n)) Double.divide a b

/-- The remainder of whole numbers; there is none by zero. -/
def remainder (encoding : Encoding) (a b : Value) : Value :=
  match a, b with
  | null, _ => null
  | _, null => null
  | a, b =>
    let n := b.toInteger encoding
    if n = 0 then null
    else
      let result := if n = -1 then 0 else (a.toInteger encoding).tmod n
      match a.toNumber encoding, b.toNumber encoding with
      | integer _, integer _ => integer result
      | _, _ => ofDouble (.ofInt result)

/-- Computes with the bits of two whole numbers. -/
def onBits (encoding : Encoding) (f : Nat → Nat → Nat) (a b : Value) : Value :=
  match a, b with
  | null, _ => null
  | _, null => null
  | a, b =>
    let bits (value : Value) : Nat := Block.unsigned 64 (value.toInteger encoding)
    integer (Block.signed 64 (f (bits a) (bits b)))

/-- A whole number with its bits moved by some places, to the left or, for a negative number of
places, to the right, where the sign comes after them. -/
def shifted (n places : Int) : Int :=
  if 64 ≤ places then 0
  else if places ≤ -64 then if n < 0 then -1 else 0
  else if 0 ≤ places then
    Block.signed 64 ((Block.unsigned 64 n <<< places.toNat) % 0x10000000000000000)
  else n.fdiv (1 <<< (-places).toNat : Nat)

/-- Moves the bits of a whole number. -/
def shift (encoding : Encoding) (left : Bool) (a b : Value) : Value :=
  match a, b with
  | null, _ => null
  | _, null => null
  | a, b =>
    let places := b.toInteger encoding
    integer (shifted (a.toInteger encoding) (if left then places else -places))

/-! ## Texts -/

/-- The bytes of a value as a text with one unit for each byte. -/
def textBytes (encoding : Encoding) : Value → Block
  | text bytes => encoding.toUtf8 bytes
  | blob bytes => encoding.toUtf8 bytes
  | null => #[]
  | value => (Utf8.encode value.shown).toArray

/-- A text of units of one byte. -/
def ofUtf8 (encoding : Encoding) (bytes : Block) : Value := text (encoding.ofUtf8 bytes)

/-- The bytes of a value as a text of the database. -/
def storedBytes (encoding : Encoding) : Value → Block
  | text bytes => bytes
  | blob bytes => bytes
  | value => encoding.ofUtf8 (value.textBytes encoding)

/-- Two texts as one. -/
def concat (encoding : Encoding) (a b : Value) : Value :=
  match a, b with
  | null, _ => null
  | _, null => null
  | a, b => text (a.storedBytes encoding ++ b.storedBytes encoding)

/-! ## Truths -/

/-- Whether both are true. -/
def both : Option Bool → Option Bool → Option Bool
  | some false, _ => some false
  | _, some false => some false
  | some true, other => other
  | none, _ => none

/-- Whether one of two is true. -/
def either : Option Bool → Option Bool → Option Bool
  | some true, _ => some true
  | _, some true => some true
  | some false, other => other
  | none, _ => none

/-! ## Kinds -/

/-- A value of the kind that a name of a type asks for. -/
def cast (encoding : Encoding) (type : String) (value : Value) : Value :=
  if value.isNull then null
  else
    match Affinity.ofCast type with
    | .blob =>
      match value with
      | text bytes => blob bytes
      | blob bytes => blob bytes
      | value => blob (encoding.ofUtf8 (value.textBytes encoding))
    | .text =>
      match value with
      | blob bytes => text bytes
      | value => ofUtf8 encoding (value.textBytes encoding)
    | .integer => integer (value.toInteger encoding)
    | .real => ofDouble (value.toDouble encoding)
    | .numeric =>
      match value with
      | text bytes => Affinity.wholeIfExact (leadingNumber encoding bytes)
      | blob bytes => Affinity.wholeIfExact (leadingNumber encoding bytes)
      | value => value

end Value

/-- What an operator on one value computes. -/
def Unary.apply (encoding : Encoding) (op : Unary) (value : Value) : Value :=
  match op with
  | .not => .ofTruth ((value.truth? encoding).map (!·))
  | .minus => .arithmetic encoding (fun m n => some (m - n))
      (fun a b => a.add b.negate) (.integer 0) value
  | .plus => value
  | .complement =>
    if value.isNull then .null else .integer (-(value.toInteger encoding) - 1)

/-- What an operator on two values computes that does not compare them. -/
def Binary.apply (encoding : Encoding) (op : Binary) (a b : Value) : Value :=
  match op with
  | .or => .ofTruth (Value.either (a.truth? encoding) (b.truth? encoding))
  | .and => .ofTruth (Value.both (a.truth? encoding) (b.truth? encoding))
  | .bitAnd => .onBits encoding (· &&& ·) a b
  | .bitOr => .onBits encoding (· ||| ·) a b
  | .shiftLeft => .shift encoding true a b
  | .shiftRight => .shift encoding false a b
  | .add => .arithmetic encoding (fun m n => some (m + n)) Double.add a b
  | .subtract =>
    .arithmetic encoding (fun m n => some (m - n)) (fun a b => a.add b.negate) a b
  | .multiply => .arithmetic encoding (fun m n => some (m * n)) Double.multiply a b
  | .divide => .divide encoding a b
  | .remainder => .remainder encoding a b
  | .concat => .concat encoding a b
  | _ => .null

/-- What an operator that compares says about an order. -/
def Binary.holds? : Binary → Ordering → Option Bool
  | .eq, order => some (order == .eq)
  | .is, order => some (order == .eq)
  | .ne, order => some (order != .eq)
  | .isNot, order => some (order != .eq)
  | .lt, order => some (order == .lt)
  | .le, order => some (order != .gt)
  | .gt, order => some (order == .gt)
  | .ge, order => some (order != .lt)
  | _, _ => none

end AppCatalog
