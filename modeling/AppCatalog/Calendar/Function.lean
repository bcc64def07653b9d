import AppCatalog.Calendar.Modifier

/-!
# Functions on moments

Dates, times, counts of days and of seconds, and forms of moments that are written with letters
behind percent signs. All of them read a moment and change it by modifiers first.
-/

namespace AppCatalog

namespace Date

/-- Digits of a number with zeros before them. -/
def padded (width : Nat) (n : Int) : Bytes :=
  ({ width, isPadded := true } : Directive).whole 10 n.natAbs
    (if n < 0 then some 45 else none) false [] []

/-- Digits of a number with blanks before them. -/
def spaced (n : Int) : Bytes := ({ width := 2 } : Directive).padded false (Utf8.encode (toString n))

/-- A date with a sign if it lies before all others. -/
def shown (date : Date) : Bytes :=
  let sign : Bytes := if date.year < 0 then [45] else []
  sign ++ padded 4 date.year.natAbs ++ 45 :: padded 2 date.month ++ 45 :: padded 2 date.day

end Date

namespace TimeOfDay

/-- Hours and minutes. -/
def shownShort (time : TimeOfDay) : Bytes :=
  Date.padded 2 time.hour ++ 58 :: Date.padded 2 time.minute

/-- Seconds with three places. -/
def parts (time : TimeOfDay) : Bytes :=
  let form : Directive := { width := 6, isPadded := true, precision? := some 3 }
  form.real .positional false time.second

/-- A time of day, perhaps with parts of a second. -/
def shown (time : TimeOfDay) (showsParts : Bool) : Bytes :=
  let seconds :=
    if showsParts then
      let count := Moment.scaledBy time.second 1000
      Date.padded 2 (count.tdiv 1000) ++ 46 :: Date.padded 3 (count.tmod 1000)
    else Date.padded 2 time.second.truncate
  time.shownShort ++ 58 :: seconds

end TimeOfDay

namespace Moment

/-! ## Places in a year and a week -/

/-- How many days lie between the first of the year and a moment. -/
def dayOfYear (moment : Moment) : Int :=
  let start := { moment with count? := none, date? := some ⟨moment.date.year, 1, 1⟩ }
  (moment.count - start.count + Date.halfDay).tdiv Date.dayLength

/-- How many days lie between the last Monday and a moment. -/
def sinceMonday (moment : Moment) : Int :=
  ((moment.count + Date.halfDay).tdiv Date.dayLength).tmod 7

/-- How many days lie between the last Sunday and a moment. -/
def sinceSunday (moment : Moment) : Int := ((moment.count + 129600000).tdiv Date.dayLength).tmod 7

/-- The Thursday of the same week. -/
def thursday (moment : Moment) : Moment :=
  { moment.later ((3 - moment.sinceMonday) * Date.dayLength) with date? := none }.withDate

/-- The days of a moment as a number. -/
def days (moment : Moment) : Double := (Double.ofInt moment.count).divide (.ofInt Date.dayLength)

/-- The seconds of a moment, with three places. -/
def exactSeconds (moment : Moment) : Double :=
  (Double.ofInt (moment.count - epoch)).divide (.ofInt 1000)

/-- The whole seconds of a moment. -/
def seconds (moment : Moment) : Int := moment.count.tdiv 1000 - epoch / 1000

/-! ## Forms -/

/-- What a letter of a form stands for, if it stands for anything. -/
def part? (moment : Moment) (letter : UInt8) : Option Bytes :=
  let date := moment.date
  let time := moment.time
  let hour := if 12 < time.hour then time.hour - 12 else time.hour
  let hour := if hour = 0 then 12 else hour
  let half (early late : String) : Bytes := Utf8.encode (if 12 ≤ time.hour then late else early)
  match Char.ofNat letter.toNat with
  | 'd' => some (Date.padded 2 date.day)
  | 'e' => some (Date.spaced date.day)
  | 'f' => some time.parts
  | 'F' =>
    some (Date.padded 4 date.year ++ 45 :: Date.padded 2 date.month ++ 45 :: Date.padded 2 date.day)
  | 'g' => some (Date.padded 2 (moment.thursday.date.year.tmod 100))
  | 'G' => some (Date.padded 4 moment.thursday.date.year)
  | 'H' => some (Date.padded 2 time.hour)
  | 'k' => some (Date.spaced time.hour)
  | 'I' => some (Date.padded 2 hour)
  | 'l' => some (Date.spaced hour)
  | 'j' => some (Date.padded 3 (moment.dayOfYear + 1))
  | 'J' => some (({ precision? := some 16 } : Directive).real .either false moment.days)
  | 'm' => some (Date.padded 2 date.month)
  | 'M' => some (Date.padded 2 time.minute)
  | 'p' => some (half "AM" "PM")
  | 'P' => some (half "am" "pm")
  | 'R' => some time.shownShort
  | 's' =>
    some (if moment.showsParts then
      ({ precision? := some 3 } : Directive).real .positional false moment.exactSeconds
    else Utf8.encode (toString moment.seconds))
  | 'S' => some (Date.padded 2 time.second.truncate)
  | 'T' => some (time.shown false)
  | 'u' => some (Utf8.encode (toString (if moment.sinceSunday = 0 then 7 else moment.sinceSunday)))
  | 'w' => some (Utf8.encode (toString moment.sinceSunday))
  | 'U' => some (Date.padded 2 ((moment.dayOfYear - moment.sinceSunday + 7).tdiv 7))
  | 'V' => some (Date.padded 2 (moment.thursday.dayOfYear.tdiv 7 + 1))
  | 'W' => some (Date.padded 2 ((moment.dayOfYear - moment.sinceMonday + 7).tdiv 7))
  | 'Y' => some (Date.padded 4 date.year)
  | '%' => some [37]
  | _ => none

/-- A moment in a form, if all letters of the form stand for something. -/
def formed? (moment : Moment) : Bytes → Option Bytes
  | [] => some []
  | [byte] => if byte = 37 then none else some [byte]
  | 37 :: letter :: rest => do
    let part ← moment.part? letter
    return part ++ (← formed? moment rest)
  | byte :: rest => do return byte :: (← formed? moment rest)

/-! ## Differences -/

/-- Goes back or forth month by month until a date does not lie beyond a moment. The answer also
counts the years and months on the way. -/
def approach (isBeyond : Int → Bool) (step : Int) :
    (rounds : Nat) → Moment → Date → (years months : Int) → Moment × Int × Int
  | 0, moment, _, years, months => (moment, years, months)
  | rounds + 1, moment, date, years, months =>
    if isBeyond moment.count then
      let date := { date with month := date.month + step }
      let date :=
        if date.month < 1 then { date with month := 12, year := date.year - 1 }
        else if 12 < date.month then { date with month := 1, year := date.year + 1 }
        else date
      let (years, months) := if months = 0 then (years - 1, 11) else (years, months - 1)
      approach isBeyond step rounds
        ({ moment with count? := none, date? := some date }.withCount) date years months
    else (moment, years, months)

/-- The time between two moments: years and months, and then days, hours, minutes and seconds. -/
def difference (a b : Moment) : Bytes :=
  let a := a.complete
  let b := b.complete
  let isLater := b.count ≤ a.count
  let sign : Int := if isLater then 1 else -1
  let years := sign * (a.date.year - b.date.year)
  let months := sign * (a.date.month - b.date.month)
  let (years, months) := if months < 0 then (years - 1, months + 12) else (years, months)
  let moved (moment : Moment) (date : Date) : Moment :=
    { moment with count? := none, date? := some date }.withCount
  let date := b.date
  let (b, date) :=
    if a.date.year = date.year then (b, date)
    else
      let date := { date with year := a.date.year }
      (moved b date, date)
  let (b, date) :=
    if months = 0 then (b, date)
    else
      let date := { date with month := a.date.month }
      (moved b date, date)
  let isBeyond (count : Int) : Bool :=
    if isLater then a.count < count else count < a.count
  let (b, years, months) := approach isBeyond (-sign) 24 b date years months
  let rest := sign * (a.count - b.count) + 148699540800000
  let part : Moment := { count? := some rest }
  let signByte : UInt8 := if isLater then 43 else 45
  signByte :: Date.padded 4 years ++ 45 :: Date.padded 2 months ++ 45 ::
    Date.padded 2 (part.date.day - 1) ++ 32 :: part.time.shownShort ++ 58 :: part.time.parts

/-! ## Functions -/

/-- Why there is no moment. -/
inductive Obstacle where
  /-- The arguments make no sense. -/
  | senseless
  /-- The present, or the zone, is asked for where nothing may depend on it. -/
  | impure

/-- The bytes of an argument as a text. -/
def textOf? (encoding : Encoding) (value : Value) : Option Bytes :=
  if value.isNull then none else some (Value.untilZero (value.bytesOf encoding))

/-- Changes a moment by modifiers, first to last. -/
def modifiedBy (encoding : Encoding) (isPure : Bool) :
    (isFirst : Bool) → Moment → List Value → Except Obstacle Moment
  | _, moment, [] => .ok moment
  | isFirst, moment, value :: rest =>
    match textOf? encoding value with
    | none => .error .senseless
    | some bytes =>
      match moment.modified (!isPure) isFirst bytes with
      | none => .error .impure
      | some none => .error .senseless
      | some (some moment) => modifiedBy encoding isPure false moment rest

/-- The moment that arguments say: the first one says a moment, the others how it changes. -/
def ofValues (encoding : Encoding) (isPure : Bool) (values : List Value) :
    Except Obstacle Moment := do
  let moment ← match values.head? with
    | none => if isPure then .error .impure else pure present
    | some (.integer n) => pure (ofNumber (.ofInt n))
    | some (.real bits) => pure (ofNumber (.ofBits bits))
    | some value =>
      match textOf? encoding value with
      | none => .error .senseless
      | some bytes =>
        match read (!isPure) bytes with
        | none => .error .impure
        | some none => .error .senseless
        | some (some moment) => pure moment
  let moment ← modifiedBy encoding isPure true moment (values.drop 1)
  let moment := moment.withCount
  if moment.isLost || !isShown moment.count then .error .senseless
  else if values.length = 1 ∧ moment.date?.any (28 < ·.day) then
    return { moment with date? := none }
  else return moment

/-- What a function of moments makes of its arguments, if there is one of that name. -/
def call? (encoding : Encoding) (isPure : Bool) (name : String) (values : List Value) :
    Option (Except Obstacle Value) :=
  let shown (show_ : Moment → Value) (values : List Value) : Option (Except Obstacle Value) :=
    some ((ofValues encoding isPure values).map show_)
  let text (bytes : Bytes) : Value := .ofBytes encoding bytes
  match name with
  | "julianday" => shown (fun moment => .ofDouble moment.days) values
  | "unixepoch" =>
    shown (fun moment =>
      if moment.showsParts then .ofDouble moment.exactSeconds else .integer moment.seconds) values
  | "date" => shown (fun moment => text moment.date.shown) values
  | "time" => shown (fun moment => text (moment.time.shown moment.showsParts)) values
  | "datetime" =>
    shown (fun moment =>
      let moment := moment.complete
      text (moment.date.shown ++ 32 :: moment.time.shown moment.showsParts)) values
  | "strftime" =>
    match values with
    | [] => some (.ok .null)
    | form :: values =>
      match textOf? encoding form with
      | none => some (.ok .null)
      | some form =>
        shown (fun moment => ((moment.complete.formed? form).map text).getD .null) values
  | "timediff" =>
    match values with
    | [a, b] =>
      some do
        let a ← ofValues encoding isPure [a]
        let b ← ofValues encoding isPure [b]
        return text (difference a b)
    | _ => none
  | "current_date" => shown (fun moment => text moment.date.shown) []
  | "current_time" => shown (fun moment => text (moment.time.shown false)) []
  | "current_timestamp" =>
    shown (fun moment =>
      let moment := moment.complete
      text (moment.date.shown ++ 32 :: moment.time.shown false)) []
  | _ => none

end Moment
end AppCatalog
