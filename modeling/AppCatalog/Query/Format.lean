import AppCatalog.Query.Text

/-!
# Texts made by a form

A form is a text in which each percent sign starts a directive: flags, a width and a precision, and
a letter that says how the next argument is written. Arguments that are missing count as zero, or
as an empty text. The first directive that makes no sense ends the text.
-/

namespace AppCatalog

/-- How a directive wants an argument to be written. -/
structure Directive where
  isLeft : Bool := false
  /-- The character in place of the sign of a number that is not negative. -/
  sign? : Option UInt8 := none
  isAlternate : Bool := false
  /-- Whether more digits are wanted, or characters counted in place of bytes. -/
  isFull : Bool := false
  isPadded : Bool := false
  isGrouped : Bool := false
  width : Nat := 0
  precision? : Option Nat := none

namespace Directive

/-- Whether a byte is a decimal digit. -/
def isDigit (byte : UInt8) : Bool := 48 ≤ byte ∧ byte ≤ 57

/-- The number that digits write, with 31 bits. -/
def numberOf (digits : Bytes) : Nat :=
  digits.foldl (fun n byte => (n * 10 + (byte.toNat - 48)) % 0x100000000) 0 % 0x80000000

/-- The size that a whole number asks for: its low 32 bits as a number with a sign. -/
def sizeOf (n : Int) : Int := Block.signed 32 (Block.unsigned 64 n % 0x100000000)

/-! ## Reading a directive -/

/-- A directive while it is read, with the letter that ends it and the values not yet used. -/
structure Reading where
  directive : Directive
  letter : UInt8
  rest : Bytes
  values : List Value

/-- Takes a width that an argument gives. -/
def withWidth (directive : Directive) (encoding : Encoding) (values : List Value) : Directive :=
  let size := sizeOf ((values.headD .null).toInteger encoding)
  if 0 ≤ size then { directive with width := size.toNat }
  else { directive with isLeft := true, width := if size = -0x80000000 then 0 else size.natAbs }

/-- Takes a precision that an argument gives. -/
def withPrecision (directive : Directive) (encoding : Encoding) (values : List Value) :
    Directive :=
  let size := sizeOf ((values.headD .null).toInteger encoding)
  { directive with precision? := if size = -0x80000000 then none else some size.natAbs }

/-- Reads a directive behind its percent sign. -/
def read (encoding : Encoding) :
    (rounds : Nat) → Directive → List Value → Bytes → Option Reading
  | 0, _, _, _ => none
  | _, _, _, [] => none
  | rounds + 1, directive, values, byte :: rest =>
    let goOn (directive : Directive) : Option Reading :=
      read encoding rounds directive values rest
    match byte with
    | 45 => goOn { directive with isLeft := true }
    | 43 => goOn { directive with sign? := some 43 }
    | 32 => goOn { directive with sign? := some 32 }
    | 35 => goOn { directive with isAlternate := true }
    | 33 => goOn { directive with isFull := true }
    | 48 => goOn { directive with isPadded := true }
    | 44 => goOn { directive with isGrouped := true }
    | 108 => ended directive values (if rest.head? = some 108 then rest.drop 1 else rest)
    | 42 =>
      let directive := directive.withWidth encoding values
      continued rounds directive (values.drop 1) rest
    | 46 =>
      if rest.head? = some 42 then
        let directive := directive.withPrecision encoding values
        precise rounds directive (values.drop 1) (rest.drop 1)
      else
        let precision := numberOf (rest.takeWhile isDigit)
        precise rounds { directive with precision? := some precision } values
          (rest.dropWhile isDigit)
    | byte =>
      if isDigit byte then
        let digits := byte :: rest.takeWhile isDigit
        continued rounds { directive with width := numberOf digits } values
          (rest.dropWhile isDigit)
      else some { directive, letter := byte, rest, values }
where
  /-- Takes the letter that ends a directive. -/
  ended (directive : Directive) (values : List Value) : Bytes → Option Reading
    | [] => none
    | letter :: rest => some { directive, letter, rest, values }
  /-- Goes on behind a width, which only a point or a mark of length can follow. -/
  continued (rounds : Nat) (directive : Directive) (values : List Value) (rest : Bytes) :
      Option Reading :=
    match rest with
    | 46 :: _ => read encoding rounds directive values rest
    | 108 :: _ => read encoding rounds directive values rest
    | rest => ended directive values rest
  /-- Goes on behind a precision, which only a mark of length can follow. -/
  precise (rounds : Nat) (directive : Directive) (values : List Value) (rest : Bytes) :
      Option Reading :=
    match rest with
    | 108 :: _ => read encoding rounds directive values rest
    | rest => ended directive values rest

/-! ## Whole numbers -/

/-- Digits with a comma before each three of them. -/
def grouped (digits : Bytes) : Bytes :=
  let count := digits.length
  (digits.zipIdx.flatMap fun (byte, n) =>
    if n ≠ 0 ∧ (count - n) % 3 = 0 then [44, byte] else [byte])

/-- The digits of a number to some base. -/
def digitsOf (base n : Nat) (isLarge : Bool) : Bytes :=
  let digits := (Nat.toDigits base n).map fun c => c.toUInt8
  if isLarge then digits.map Value.upperByte else digits

/-- The letters behind the digits of a rank. -/
def rankLetters (n : Nat) : Bytes :=
  let last := if n / 10 % 10 = 1 then 0 else n % 10
  Utf8.encode (if last = 1 then "st" else if last = 2 then "nd" else if last = 3 then "rd" else "th")

/-- Writes a whole number: its size to some base, a sign, what stands before numbers of that base,
and letters behind. -/
def whole (directive : Directive) (base size : Nat) (sign? : Option UInt8) (isLarge : Bool)
    (before behind : Bytes) : Bytes :=
  let least := directive.precision?.getD 0
  let room := directive.width - if sign?.isSome then 1 else 0
  let least := if directive.isPadded then max least room else least
  let digits := digitsOf base size isLarge ++ behind
  let digits := List.replicate (least - digits.length) 48 ++ digits
  let digits := if directive.isGrouped then grouped digits else digits
  let before := if directive.isAlternate && size ≠ 0 then before else []
  before ++ sign?.toList ++ digits

/-- The sign of a number that is written. -/
def signFor (directive : Directive) (negative : Bool) : Option UInt8 :=
  if negative then some 45 else directive.sign?

/-! ## Floating-point numbers -/

/-- Rounds digits to the first so many. The answer also tells whether a digit came before. -/
def roundDigits (digits : List Nat) (count : Nat) : List Nat × Bool :=
  let kept := digits.take count
  if (digits.getD count 0) < 5 then (kept, false)
  else
    let value := kept.foldl (fun value digit => value * 10 + digit) 0 + 1
    let found := (Nat.toDigits 10 value).map fun c => c.toNat - 48
    (List.replicate (count - found.length) 0 ++ found, count < found.length)

/-- The digits of a finite number, rounded to some of them, and how many stand before the point.
`places` counts digits from the point on if it is not positive, and from the first one on else. -/
def decoded (number : Double) (places : Int) (most : Nat) : List Nat × Int :=
  match number with
  | .finite _ significand exponent =>
    if significand = 0 then ([0], 1)
    else
      let (value, last) := Wide.digitsOf significand exponent
      let digits := (Nat.toDigits 10 value).map fun c => c.toNat - 48
      let point : Int := digits.length + last
      let count := if places ≤ 0 then point - places else places
      let (digits, point, count) :=
        if places ≤ 0 ∧ count = 0 ∧ 5 ≤ digits.headD 0 then (0 :: digits, point + 1, 1)
        else (digits, point, count)
      let (digits, point) :=
        if 0 < count ∧ (count < digits.length ∨ most < digits.length) then
          let (rounded, isLonger) := roundDigits digits (min count.toNat most)
          (rounded, if isLonger then point + 1 else point)
        else (digits, point)
      ((digits.reverse.dropWhile (· = 0)).reverse, point)
  | _ => ([], 0)

/-- A way of writing floating-point numbers. -/
inductive NumberForm where
  | positional
  | scientific
  | either
  deriving DecidableEq

/-- The exponent of a number that is written with one. -/
def exponentOf (power : Int) (isLarge : Bool) : Bytes :=
  let size := power.natAbs
  let digits := digitsOf 10 size false
  let letter : UInt8 := if isLarge then 69 else 101
  letter :: (if power < 0 then 45 else 43) :: (if size < 10 then 48 :: digits else digits)

/-- Digits before a point. -/
def frontOf (directive : Directive) (digits : Bytes) : Bytes :=
  if directive.isGrouped then grouped digits else digits

/-- Writes a finite number from its digits. -/
def finite (directive : Directive) (form : NumberForm) (isLarge negative : Bool)
    (digits : List Nat) (point : Int) (precision : Nat) : Bytes :=
  let power := point - 1
  let isScientific := match form with
    | .positional => false
    | .scientific => true
    | .either => power < -4 ∨ (precision : Int) - 1 < power
  let places : Nat :=
    if form ≠ .either then precision
    else if isScientific then precision - 1
    else (precision - 1 - power).toNat
  let isTrimmed := if form = .either then !directive.isAlternate else directive.isFull
  let hasPoint := 0 < places || directive.isAlternate || directive.isFull
  let bytes : Bytes := digits.map fun digit => (48 + digit).toUInt8
  let count := if isScientific then 1 else point.toNat
  let front : Bytes := if count = 0 then [48] else
    directive.frontOf (bytes.take count ++ List.replicate (count - bytes.length) 48)
  let lead := if isScientific then 0 else (-point).toNat
  let back : Bytes := (List.replicate lead 48 ++ bytes.drop count).take places
  let back : Bytes := back ++ List.replicate (places - back.length) 48
  let tail : Bytes :=
    if !hasPoint then []
    else if isTrimmed then
      match (back.reverse.dropWhile (· = 48)).reverse with
      | [] => if directive.isFull then [46, 48] else []
      | back => 46 :: back
    else 46 :: back
  let sign := (directive.signFor negative).toList
  let body := front ++ tail ++ if isScientific then exponentOf power isLarge else []
  let room := directive.width - sign.length - body.length
  if directive.isPadded && !directive.isLeft then sign ++ List.replicate room 48 ++ body
  else sign ++ body

/-- Writes a floating-point number. -/
def real (directive : Directive) (form : NumberForm) (isLarge : Bool) (number : Double) : Bytes :=
  let precision := directive.precision?.getD 6
  let precision := if form = .either ∧ precision = 0 then 1 else precision
  let places : Int := match form with
    | .positional => -precision
    | .either => precision
    | .scientific => precision + 1
  let most := if directive.isFull then 26 else 16
  match number with
  | .nan => Utf8.encode (if directive.isPadded then "null" else "NaN")
  | .infinite negative =>
    if directive.isPadded then directive.finite form isLarge negative [9] 1000 precision
    else (directive.signFor negative).toList ++ Utf8.encode "Inf"
  | number =>
    let negative := match number with
      | .finite negative significand _ => negative && significand ≠ 0
      | _ => false
    let (digits, point) := decoded number places most
    directive.finite form isLarge negative digits point precision

/-! ## Texts -/

/-- The first bytes of a text that a precision leaves. -/
def cut (directive : Directive) (bytes : Bytes) : Bytes :=
  match directive.precision? with
  | none => bytes
  | some count =>
    if directive.isFull then ((Value.characters bytes).take count).flatten else bytes.take count

/-- A text with blanks up to a width. Bytes that only continue a character do not count if
characters are counted. -/
def padded (directive : Directive) (countsCharacters : Bool) (bytes : Bytes) : Bytes :=
  let length :=
    if countsCharacters then (bytes.filter (!Value.continues ·)).length else bytes.length
  let blanks := List.replicate (directive.width - length) 32
  if directive.isLeft then bytes ++ blanks else blanks ++ bytes

/-- A text as it is written between quotes. -/
def escaped (quote : UInt8) (bytes : Bytes) : Bytes :=
  bytes.flatMap fun byte => if byte = quote then [byte, byte] else [byte]

/-- The first character of a text, as often as the precision says. -/
def character (directive : Directive) (bytes : Bytes) : Bytes :=
  let unit := match bytes with
    | [] => [0]
    | byte :: rest =>
      if byte.toNat / 64 = 3 then byte :: (rest.takeWhile Value.continues).take 3 else [byte]
  (List.replicate (max 1 (directive.precision?.getD 1)) unit).flatten

/-! ## Writing an argument -/

/-- Writes an argument, if the letter says how. -/
def write? (encoding : Encoding) (directive : Directive) (letter : UInt8) (value : Value) :
    Option Bytes :=
  let text? : Option Bytes :=
    if value.isNull then none else some (Value.untilZero (value.bytesOf encoding))
  let integer := value.toInteger encoding
  let bits := Block.unsigned 64 integer
  let plain := { directive with isGrouped := false }
  let number := value.toDouble encoding
  let simply (bytes : Bytes) : Option Bytes := some (directive.padded false bytes)
  let signed (directive : Directive) (behind : Bytes) : Option Bytes :=
    simply (directive.whole 10 integer.natAbs (directive.signFor (integer < 0)) false [] behind)
  match Char.ofNat letter.toNat with
  | 'd' | 'i' => signed directive []
  | 'r' => signed plain (rankLetters integer.natAbs)
  | 'u' => simply (directive.whole 10 bits none false [] [])
  | 'o' => simply (plain.whole 8 bits none false [48] [])
  | 'x' => simply (plain.whole 16 bits none false [48, 120] [])
  | 'p' => simply (plain.whole 16 bits none true [48, 120] [])
  | 'X' => simply (plain.whole 16 bits none true [48, 88] [])
  | 'f' => simply (directive.real .positional false number)
  | 'e' => simply (directive.real .scientific false number)
  | 'E' => simply (directive.real .scientific true number)
  | 'g' => simply (directive.real .either false number)
  | 'G' => simply (directive.real .either true number)
  | '%' => simply [37]
  | 'n' => some []
  | 'c' => some (directive.padded true (directive.character (text?.getD [])))
  | 's' | 'z' => some (directive.padded directive.isFull (directive.cut (text?.getD [])))
  | 'q' =>
    some (directive.padded directive.isFull
      (escaped 39 (directive.cut (text?.getD (Utf8.encode "(NULL)")))))
  | 'Q' =>
    let bytes := match text? with
      | none => directive.cut (Utf8.encode "NULL")
      | some bytes => 39 :: escaped 39 (directive.cut bytes) ++ [39]
    some (directive.padded directive.isFull bytes)
  | 'w' =>
    some (directive.padded directive.isFull
      (escaped 34 (directive.cut (text?.getD (Utf8.encode "(NULL)")))))
  | _ => none

/-- Whether a letter takes no argument. -/
def isBare (letter : UInt8) : Bool := letter = 37 || letter = 110

/-- The greatest number of bytes of a text. -/
def maxLength : Nat := 1000000000

/-- The bytes that a form and its arguments make, behind some that are there. Nothing at all is
made of an empty form, or if there are too many bytes. -/
def fill (encoding : Encoding) :
    (rounds : Nat) → (made? : Option Bytes) → (form : Bytes) → List Value → Option Bytes
  | 0, made?, _, _ => made?
  | _, made?, [], _ => made?
  | rounds + 1, made?, form, values =>
    let plain := form.takeWhile (· ≠ 37)
    if plain ≠ [] then
      fill encoding rounds (some (made?.getD [] ++ plain)) (form.dropWhile (· ≠ 37)) values
    else if form.length = 1 then some (made?.getD [] ++ [37])
    else
      match read encoding form.length {} values (form.drop 1) with
      | none => made?
      | some found =>
        let isLong := maxLength < found.directive.width ||
          found.directive.precision?.any (maxLength < ·) && found.letter ≠ 115
        if isLong then none
        else
          match found.directive.write? encoding found.letter (found.values.headD .null) with
          | none => made?
          | some bytes =>
            let values := if isBare found.letter then found.values else found.values.drop 1
            fill encoding rounds (some (made?.getD [] ++ bytes)) found.rest values

end Directive

namespace Value

/-- The text that a form and its arguments make. -/
def formatted (encoding : Encoding) (form : Value) (arguments : List Value) : Value :=
  if form.isNull then null
  else
    let form := untilZero (form.bytesOf encoding)
    match Directive.fill encoding (form.length + 1) none form arguments with
    | some bytes => ofBytes encoding bytes
    | none => null

end Value
end AppCatalog
