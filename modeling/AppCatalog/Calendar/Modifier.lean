import AppCatalog.Calendar.Moment

/-!
# Changing moments

A modifier is a text that says how a moment changes: by an amount of time, to the start of a day, a
month or a year, to a day of the week, or in what its number counts. Where a month is too short for
a day the date goes on into the next month, unless the last day of the month is asked for.
-/

namespace AppCatalog
namespace Moment

/-- A unit of time: its name, the least amount of it that is too much, and its seconds. -/
structure TimeUnit where
  name : String
  limit : Double
  seconds : Int

/-- All units of time. -/
def units : List TimeUnit :=
  [⟨"second", .ofInt 464270000000000, 1⟩, ⟨"minute", .ofInt 7737900000000, 60⟩,
    ⟨"hour", .ofInt 128970000000, 3600⟩, ⟨"day", .ofInt 5373485, 86400⟩,
    ⟨"month", .ofInt 176546, 2592000⟩, ⟨"year", .ofInt 14713, 31536000⟩]

/-- The milliseconds of the moment from which seconds are counted. -/
def epoch : Int := 210866760000000

/-- The moment of a number of seconds. -/
def ofSeconds (moment : Moment) (seconds : Double) : Moment :=
  let count := (((seconds.multiply (.ofInt 1000)).add (.ofInt epoch)).add half).truncate
  { moment.bare with count? := some count, raw? := none }

/-- A number that was read alone counts seconds if it is no day. -/
def guessed (moment : Moment) : Moment :=
  match moment.raw?, moment.count? with
  | some number, none =>
    let isFit := number.compareTo (.ofInt (-210866760000)) ≠ .lt &&
      number.compareTo (.ofInt 253402300799) ≠ .gt
    if isFit then moment.ofSeconds number else moment
  | _, _ => { moment with raw? := none }

/-- The start of a day, a month or a year. -/
def startOf (moment : Moment) (unit : Bytes) : Option Moment :=
  if moment.count?.isNone && moment.date?.isNone && moment.time?.isNone then none
  else
    let date := moment.date
    let midnight (date : Date) : Option Moment :=
      let moment := moment.withDate
      some { moment with
        count? := none, date? := some date, time? := some ⟨0, 0, .ofInt 0⟩, raw? := none
        zone := 0 }
    if isWord "month" unit then midnight { date with day := 1 }
    else if isWord "year" unit then midnight { date with month := 1, day := 1 }
    else if isWord "day" unit then midnight date
    else none

/-- The next day that is a given one of the week, of which Sunday is the first. -/
def onWeekday (moment : Moment) (bytes : Bytes) : Option Moment := do
  let number ← number? bytes
  let day := number.truncate
  if day < 0 ∨ 7 ≤ day ∨ number.whole? ≠ some day ∨ number.isNegative then none
  else
    let moment := { moment.complete with zone := 0, count? := none }.withCount
    let today := (((moment.count?.getD 0) + 129600000).tdiv Date.dayLength).tmod 7
    let today := if day < today then today - 7 else today
    return (moment.later ((day - today) * Date.dayLength)).bare

/-- The moment some years, months and days later. -/
def shifted (moment : Moment) (sign years months days : Int) : Moment :=
  let date := moment.complete.date
  let date := normal { date with
    year := date.year + sign * years, month := date.month + sign * months }
  let moment := (moment.complete.onDate date).withCount
  { moment with date? := none, time? := none }.later (sign * days * Date.dayLength)

/-- The moment an amount of time later that is given as a time of day. -/
def laterBy (moment : Moment) (sign : Int) (bytes : Bytes) : Option Moment := do
  let part ← readTime {} bytes
  let part := (part.count - Date.halfDay).tmod Date.dayLength
  return (moment.withCount.bare).later (sign * part)

/-- The moment some units of time later. -/
def laterUnits (moment : Moment) (amount : Double) (bytes : Bytes) : Option Moment := do
  let name := lowered bytes
  if name.length < 3 ∨ 10 < name.length then none
  else
    let name := if name.getLast? = some 115 then name.dropLast else name
    let unit ← units.find? fun unit => Utf8.encode unit.name = name
    let isSmall := amount.compareTo unit.limit = .lt &&
      amount.compareTo unit.limit.negate = .gt
    if isSmall then
      let moment := { moment.withCount with overflow := 0 }
      let whole := amount.truncate
      let date := moment.complete.date
      let rest := amount.add (.ofInt (-whole))
      let isBack := amount.isNegative
      let (moment, amount) :=
        if unit.name = "month" then
          (moment.complete.onDate (normal { date with month := date.month + whole }), rest)
        else if unit.name = "year" then
          (moment.complete.onDate { date with year := date.year + whole }, rest)
        else (moment, amount)
      let size := (amount.multiply (.ofInt 1000)).multiply (.ofInt unit.seconds)
      let size := size.add (if isBack then half.negate else half)
      return ((moment.withCount).later size.truncate).bare
    else none

/-- How many bytes of a modifier write its number. -/
def amountLength (bytes : Bytes) : Nat :=
  let isEnd (n : Nat) (byte : UInt8) : Bool :=
    let year (count : Nat) : Bool := (digits? count 0 14712 none (bytes.drop 1)).isSome
    byte = 58 || Numeral.isBlank byte || (byte = 45 && ((n = 5 && year 4) || (n = 6 && year 5)))
  match (bytes.zipIdx.drop 1).find? fun (byte, n) => isEnd n byte with
  | some (_, n) => n
  | none => bytes.length

/-- The moment some amount later, which is written with a number at its start. -/
def adjusted (moment : Moment) (bytes : Bytes) : Option Moment := do
  let count := max 1 (amountLength bytes)
  let amount ← number? (bytes.take count)
  let rest := bytes.drop count
  let sign : Int := if bytes.head? = some 45 then -1 else 1
  match rest with
  | 45 :: _ =>
    if bytes.head? ≠ some 45 ∧ bytes.head? ≠ some 43 then none
    else
      let (years, more) ← digits? (count - 1) 0 14712 (some 45) (bytes.drop 1)
      let (months, more) ← digits? 2 0 11 (some 45) more
      let (days, more) ← digits? 2 0 30 none more
      let moment := moment.shifted sign years months days
      match more with
      | [] => some moment
      | blank :: time =>
        if Numeral.isBlank blank && (hourAndMinute? 24 time).isSome then moment.laterBy sign time
        else none
  | 58 :: _ =>
    let isDigit := bytes.head?.any Numeral.isDigit
    moment.laterBy sign (if isDigit then bytes else bytes.drop 1)
  | rest => moment.laterUnits amount (rest.dropWhile Numeral.isBlank)

/-- Whether bytes begin with a word, whatever the case of its letters. -/
def startsWith (word : String) (bytes : Bytes) : Bool :=
  (Utf8.encode word).isPrefixOf (lowered bytes)

/-- Changes a moment by a modifier, which is the first one or not. What needs to know about zones
is asked for only where `allowsZones`; the answer is nothing at all if it is asked for elsewhere. -/
def modified (moment : Moment) (allowsZones isFirst : Bool) (bytes : Bytes) :
    Option (Option Moment) :=
  let is (word : String) : Bool := isWord word bytes
  let first : Option Bytes := bytes.head?.map fun byte => [byte]
  let isAmount := first.any fun bytes => bytes.all fun byte =>
    byte = 43 || byte = 45 || Numeral.isDigit byte
  if is "auto" then some (if isFirst then some moment.guessed else none)
  else if is "ceiling" then some (some { moment.withCount.bare with overflow := 0 })
  else if is "floor" then
    let moment := moment.withCount
    some (some (moment.later (-moment.overflow * Date.dayLength)).bare)
  else if is "julianday" then
    some (if isFirst && moment.count?.isSome && moment.raw?.isSome
      then some { moment with raw? := none } else none)
  else if is "localtime" then
    if !allowsZones then none
    else
      let here :=
        if moment.isLocal then moment
        else
          let full := { moment.withCount.bare with raw? := none }.complete
          { full with isLost := false }
      some (some { here with isUniversal := false, isLocal := true })
  else if is "unixepoch" && moment.raw?.isSome then
    let seconds := moment.raw?.getD (.ofInt 0)
    let count := (seconds.multiply (.ofInt 1000)).add (.ofInt epoch)
    let isFit := isFirst && !count.isNegative &&
      count.compareTo (.ofInt (maxCount + 1)) = .lt
    some (if isFit then some (moment.ofSeconds seconds) else none)
  else if is "utc" then
    if !allowsZones then none
    else if moment.isUniversal then some (some moment)
    else some (some { count? := some moment.count, isUniversal := true })
  else if startsWith "weekday " bytes then some (moment.onWeekday (bytes.drop 8))
  else if startsWith "start of " bytes then some (moment.startOf (bytes.drop 9))
  else if is "subsec" || is "subsecond" then some (some { moment with showsParts := true })
  else if isAmount then some (moment.adjusted bytes)
  else some none

end Moment
end AppCatalog
