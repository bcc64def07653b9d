import AppCatalog.Query.Format

/-!
# Moments

A moment of the calendar: a number of milliseconds, a date, a time of day, or several of them. What
is missing is computed from what is there. Milliseconds are counted from noon of a day that lies
4714 years before the first one; dates are those of the calendar with 97 leap years in 400, for all
times. A number that was read alone may yet turn out to count days or seconds.
-/

namespace AppCatalog

/-- A date. A day may lie behind the end of its month. -/
structure Date where
  year : Int
  month : Int
  day : Int
  deriving Repr, DecidableEq

/-- A time of day. -/
structure TimeOfDay where
  hour : Int
  minute : Int
  second : Double
  deriving Repr, DecidableEq

/-- A moment. -/
structure Moment where
  /-- Its milliseconds, if they are known. -/
  count? : Option Int := none
  date? : Option Date := none
  time? : Option TimeOfDay := none
  /-- How many minutes the time is ahead. -/
  zone : Int := 0
  /-- A number that was read alone. -/
  raw? : Option Double := none
  /-- How many days the date lies behind the end of its month. -/
  overflow : Int := 0
  /-- Whether it is no moment at all. -/
  isLost : Bool := false
  /-- Whether parts of a second are shown. -/
  showsParts : Bool := false
  /-- Whether the time is that of the zone without difference. -/
  isUniversal : Bool := false
  isLocal : Bool := false

namespace Date

/-- The milliseconds of a day. -/
def dayLength : Int := 86400000

/-- The milliseconds of half a day. -/
def halfDay : Int := 43200000

/-- The milliseconds of a date at midnight. -/
def count (date : Date) : Int :=
  let (year, month) :=
    if date.month ≤ 2 then (date.year - 1, date.month + 12) else (date.year, date.month)
  let century := (year + 4800).tdiv 100
  let leap := 38 - century + century.tdiv 4
  let days := (36525 * (year + 4716)).tdiv 100 + (306001 * (month + 1)).tdiv 10000
    + date.day + leap
  (days * 2 - 3049) * halfDay

/-- The date of milliseconds. -/
def ofCount (count : Int) : Date :=
  let z := (count + halfDay).tdiv dayLength
  let alpha := (4 * z + 128179).tdiv 146097 - 52
  let a := z + 1 + alpha - (alpha + 100).tdiv 4 + 25
  let b := a + 1524
  let c := (20 * b - 2442).tdiv 7305
  let d := (36525 * (c % 32768)).tdiv 100
  let e := ((b - d) * 10000).tdiv 306001
  let month := if e < 14 then e - 1 else e - 13
  { day := b - d - (306001 * e).tdiv 10000, month
    year := if 2 < month then c - 4716 else c - 4715 }

/-- How many days a date lies behind the end of its month. -/
def overflow (date : Date) : Int :=
  let isLeap := date.year.tmod 4 = 0 ∧ (date.year.tmod 100 ≠ 0 ∨ date.year.tmod 400 = 0)
  if date.day ≤ 28 then 0
  else if [1, 3, 5, 7, 8, 10, 12].contains date.month then 0
  else if date.month ≠ 2 then if date.day = 31 then 1 else 0
  else if isLeap then date.day - 29
  else date.day - 28

end Date

namespace Moment

/-- What is no moment. -/
def lost : Moment := { isLost := true }

/-- The greatest number of milliseconds. -/
def maxCount : Int := 464269060799999

/-- Whether milliseconds are those of a moment that can be shown. -/
def isShown (count : Int) : Bool := 0 ≤ count ∧ count ≤ maxCount

/-- A half. -/
def half : Double := (Double.ofInt 1).divide (.ofInt 2)

/-- A number times a whole number, rounded to the nearest whole one. -/
def scaledBy (number : Double) (factor : Int) : Int :=
  ((number.multiply (.ofInt factor)).add half).truncate

/-! ## Computing what is missing -/

/-- The moment with its milliseconds. -/
def withCount (moment : Moment) : Moment :=
  if moment.count?.isSome then moment
  else
    let date := moment.date?.getD ⟨2000, 1, 1⟩
    if date.year < -4713 ∨ 9999 < date.year ∨ moment.raw?.isSome then lost
    else
      match moment.time? with
      | none => { moment with count? := some date.count }
      | some time =>
        let count := date.count + time.hour * 3600000 + time.minute * 60000
          + scaledBy time.second 1000
        if moment.zone = 0 then { moment with count? := some count }
        else
          { moment with
            count? := some (count - moment.zone * 60000), date? := none, time? := none
            zone := 0, isUniversal := true, isLocal := false }

/-- The milliseconds of a moment; zero if there are none. -/
def count (moment : Moment) : Int := moment.withCount.count?.getD 0

/-- The moment with its date. -/
def withDate (moment : Moment) : Moment :=
  if moment.date?.isSome then moment
  else
    match moment.count? with
    | none => { moment with date? := some ⟨2000, 1, 1⟩ }
    | some count =>
      if isShown count then { moment with date? := some (.ofCount count) } else lost

/-- The moment with its time of day. -/
def withTime (moment : Moment) : Moment :=
  if moment.time?.isSome then moment
  else
    let moment := moment.withCount
    let part := (moment.count?.getD 0 + Date.halfDay).tmod Date.dayLength
    let second := (Double.ofInt (part.tmod 60000)).divide (.ofInt 1000)
    let minutes := part.tdiv 60000
    { moment with
      time? := some ⟨minutes.tdiv 60, minutes.tmod 60, second⟩, raw? := none }

/-- The moment with its date and its time of day. -/
def complete (moment : Moment) : Moment := moment.withDate.withTime

/-- The date of a moment. -/
def date (moment : Moment) : Date := moment.withDate.date?.getD ⟨0, 0, 0⟩

/-- The time of day of a moment. -/
def time (moment : Moment) : TimeOfDay := moment.withTime.time?.getD ⟨0, 0, .ofInt 0⟩

/-- The moment with nothing but its milliseconds. -/
def bare (moment : Moment) : Moment := { moment with date? := none, time? := none, zone := 0 }

/-- The moment some milliseconds later. -/
def later (moment : Moment) (by_ : Int) : Moment :=
  { moment with count? := moment.count?.map (· + by_) }

/-- The moment with another date. -/
def onDate (moment : Moment) (date : Date) : Moment :=
  { moment with date? := some date, overflow := date.overflow, count? := none }

/-- A month that may lie before or behind those of its year. -/
def normal (date : Date) : Date :=
  let years := if 0 < date.month then (date.month - 1).tdiv 12 else (date.month - 12).tdiv 12
  { date with year := date.year + years, month := date.month - 12 * years }

/-! ## Reading -/

/-- Takes so many digits off the front that write a number between two others, and the byte behind
them, if one is asked for. -/
def digits? (count least most : Nat) (next? : Option UInt8) (bytes : Bytes) :
    Option (Int × Bytes) :=
  let digits := bytes.take count
  let rest := bytes.drop count
  let value := Numeral.valueOf digits
  let isEnded := next?.all fun next => rest.head? = some next
  if digits.length = count ∧ digits.all Numeral.isDigit ∧ least ≤ value ∧ value ≤ most ∧ isEnded
  then some (value, if next?.isSome then rest.drop 1 else rest)
  else none

/-- Takes an hour and a minute off the front. -/
def hourAndMinute? (most : Nat) (bytes : Bytes) : Option (Int × Int × Bytes) := do
  let (hour, bytes) ← digits? 2 0 most (some 58) bytes
  let (minute, bytes) ← digits? 2 0 59 none bytes
  return (hour, minute, bytes)

/-- Reads a zone up to the end. -/
def readZone (moment : Moment) (bytes : Bytes) : Option Moment :=
  let ended (moment : Moment) (bytes : Bytes) : Option Moment :=
    if bytes.all Numeral.isBlank then some moment else none
  let zoned (sign : Int) (bytes : Bytes) : Option Moment := do
    let (hour, minute, bytes) ← hourAndMinute? 14 bytes
    let zone := sign * (minute + hour * 60)
    let moment := if zone = 0 then { moment with isUniversal := true, isLocal := false } else moment
    ended { moment with zone } bytes
  match bytes.dropWhile Numeral.isBlank with
  | [] => some moment
  | 45 :: bytes => zoned (-1) bytes
  | 43 :: bytes => zoned 1 bytes
  | byte :: bytes =>
    if byte = 90 ∨ byte = 122 then ended { moment with isUniversal := true, isLocal := false } bytes
    else none

/-- The parts of a second that digits write. -/
def partsOf (digits : Bytes) : Double :=
  let ten := Double.ofInt 10
  let (value, scale) := digits.foldl (fun (value, scale) byte =>
    (((Double.multiply value ten).add (.ofInt byte.toNat)).add (.ofInt (-48)),
      Double.multiply scale ten)) (Double.ofInt 0, Double.ofInt 1)
  let parts := value.divide scale
  let most := (Double.ofInt 999).divide (.ofInt 1000)
  if parts.compareTo most = .gt then most else parts

/-- Reads a time of day up to the end. -/
def readTime (moment : Moment) (bytes : Bytes) : Option Moment := do
  let (hour, minute, bytes) ← hourAndMinute? 24 bytes
  let (second, bytes) ← match bytes with
    | 58 :: bytes => do
      let (second, bytes) ← digits? 2 0 59 none bytes
      match bytes with
      | 46 :: more =>
        let digits := more.takeWhile Numeral.isDigit
        if digits.isEmpty then some (Double.ofInt second, bytes)
        else some ((Double.ofInt second).add (partsOf digits), more.dropWhile Numeral.isDigit)
      | bytes => some (Double.ofInt second, bytes)
    | bytes => some (Double.ofInt 0, bytes)
  { moment with count? := none, raw? := none, time? := some ⟨hour, minute, second⟩ }.readZone bytes

/-- Takes a date off the front. -/
def readDate (bytes : Bytes) : Option (Date × Bytes) := do
  let (sign, bytes) : Int × Bytes := match bytes with
    | 45 :: bytes => (-1, bytes)
    | bytes => (1, bytes)
  let (year, bytes) ← digits? 4 0 14712 (some 45) bytes
  let (month, bytes) ← digits? 2 1 12 (some 45) bytes
  let (day, bytes) ← digits? 2 1 31 none bytes
  return (⟨sign * year, month, day⟩, bytes)

/-- Reads a date, perhaps with a time of day. -/
def readDateAndTime (bytes : Bytes) : Option Moment := do
  let (date, bytes) ← readDate bytes
  let bytes := bytes.dropWhile fun byte => Numeral.isBlank byte || byte = 84
  let moment ← match readTime {} bytes with
    | some moment => some moment
    | none => if bytes.isEmpty then some {} else none
  let moment := { moment with count? := none, date? := some date, overflow := date.overflow }
  return if moment.zone = 0 then moment else moment.withCount

/-- The moment of a number that was read alone. -/
def ofNumber (number : Double) : Moment :=
  let most := (Double.ofInt 10746969).divide (.ofInt 2)
  let isDay := number.compareTo (.ofInt 0) ≠ .lt && number.compareTo most = .lt
  { raw? := some number
    count? := if isDay then some (scaledBy number Date.dayLength) else none }

/-- The moment at which everything happens that asks for the present. -/
def present : Moment := { count? := some 212633985600000, isUniversal := true }

/-- The number that bytes write, and nothing else. -/
def number? (bytes : Bytes) : Option Double :=
  match Numeral.ofBytes? bytes with
  | some numeral => if numeral.isAll then some numeral.toDouble else none
  | none => none

/-- Small letters in place of capital ones. -/
def lowered (bytes : Bytes) : Bytes := bytes.map Value.lowerByte

/-- Whether bytes write a word, whatever the case of its letters. -/
def isWord (word : String) (bytes : Bytes) : Bool := lowered bytes = Utf8.encode word

/-- Reads a moment. The present may be asked for only where `allowsPresent`; the answer is nothing
at all if it is asked for elsewhere. -/
def read (allowsPresent : Bool) (bytes : Bytes) : Option (Option Moment) :=
  let now (moment : Moment) : Option (Option Moment) :=
    if allowsPresent then some (some moment) else none
  match readDateAndTime bytes with
  | some moment => some (some moment)
  | none =>
    match readTime {} bytes with
    | some moment => some (some moment)
    | none =>
      if isWord "now" bytes then now present
      else
        match number? bytes with
        | some number => some (some (ofNumber number))
        | none =>
          if isWord "subsec" bytes || isWord "subsecond" bytes then
            now { present with showsParts := true }
          else some none

end Moment
end AppCatalog
