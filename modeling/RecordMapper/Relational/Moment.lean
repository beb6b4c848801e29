import RecordMapper.Relational.Format

/-! Moments of the calendar that is used today, taken back to all earlier times: from texts and numbers, moved by
modifiers, and written out. A moment is a number of milliseconds since noon of the first day of the count of days, and
before that is needed, a date and a time of day. -/

namespace RecordMapper

structure Moment where
  /-- Year, month and day. -/
  date : Option (Int × Int × Int) := none
  /-- Hour, minute and milliseconds. -/
  clock : Option (Int × Int × Int) := none
  /-- Milliseconds. -/
  instant : Option Int := none
  /-- Minutes that the time of day is ahead. -/
  zone : Int := 0
  /-- The number that it was given as, as long as that can mean something else. -/
  number : Option Double := none
  /-- The days by which the day goes beyond the end of its month. -/
  excess : Int := 0
  fractional : Bool := false
  /-- Whether it is known to be in the time of the world, or in local time, which are the same here. -/
  isWorld : Option Bool := none

namespace Moment

def dayLength : Int := 86400000

/-- The milliseconds before the year 1970. -/
def epoch : Int := 210866760000000

/-- The last moment of the year 9999. -/
def greatest : Int := 464269060799999

def isLeap (year : Int) : Bool := year % 4 = 0 && (year % 100 ≠ 0 || year % 400 = 0)

/-- The days by which a date goes beyond the end of its month. -/
def excessOf (year month day : Int) : Int :=
  let last : Int := if month = 2 then (if isLeap year then 29 else 28) else if [4, 6, 9, 11].contains month then 30 else 31
  max 0 (day - last)

/-- The start of a date. -/
def ofDate (year month day : Int) : Int :=
  let (y, m) := if month ≤ 2 then (year - 1, month + 12) else (year, month)
  let century := Int.tdiv (y + 4800) 100
  let days := 36525 * (y + 4716) / 100 + 306001 * (m + 1) / 10000 + day + 38 - century + Int.tdiv century 4
  (2 * days - 3049) * (dayLength / 2)

/-- The date of an instant. -/
def dateOf (instant : Int) : Int × Int × Int :=
  let z := (instant + dayLength / 2) / dayLength
  let alpha := (4 * z + 128179) / 146097 - 52
  let b := z + 1 + alpha - (alpha + 100) / 4 + 25 + 1524
  let c := (100 * b - 12210) / 36525
  let d := 36525 * c / 100
  let e := (b - d) * 10000 / 306001
  let month := if e < 14 then e - 1 else e - 13
  (if 2 < month then c - 4716 else c - 4715, month, b - d - 306001 * e / 10000)

/-- The time of day of an instant. -/
def clockOf (instant : Int) : Int × Int × Int :=
  let rest := (instant + dayLength / 2) % dayLength
  (rest / 3600000, rest / 60000 % 60, rest % 60000)

/-- A moment at an instant alone. -/
def setTo (moment : Moment) (instant : Int) : Moment :=
  { moment with date := none, clock := none, zone := 0, number := none, instant := some instant }

/-- The instant of a moment, if there is one. -/
def settled (moment : Moment) : Option Moment :=
  match moment.instant with
  | some _ => some moment
  | none =>
    let (year, month, day) := moment.date.getD (2000, 1, 1)
    if year < -4713 || 9999 < year || moment.number.isSome then none
    else
      let start := ofDate year month day
      match moment.clock with
      | none => some { moment with instant := some start }
      | some (hours, minutes, rest) =>
        let instant := start + hours * 3600000 + minutes * 60000 + rest
        if moment.zone = 0 then some { moment with instant := some instant }
        else some { moment.setTo (instant - moment.zone * 60000) with isWorld := some true }

/-- A moment whose date and time of day are known; its instant no longer is. -/
def spelledOut (moment : Moment) : Option Moment := do
  let date ← match moment.date, moment.instant with
    | some date, _ => some date
    | none, none => some (2000, 1, 1)
    | none, some instant => if 0 ≤ instant ∧ instant ≤ greatest then some (dateOf instant) else none
  let clock := moment.clock.getD ((moment.instant.map clockOf).getD (0, 0, 0))
  let number := if moment.instant.isSome then none else moment.number
  return { moment with date := some date, clock := some clock, zone := 0, number, instant := none }

/-! Reading. -/

/-- A number of so many digits within bounds, and what follows. -/
def digits? (count : Nat) (least greatest : Int) (letters : List Char) : Option (Int × List Char) :=
  let found := letters.take count
  let n : Int := Numeral.value found
  if found.length = count && found.all Numeral.isDigit && least ≤ n && n ≤ greatest then some (n, letters.drop count)
  else none

/-- What follows a letter. -/
def after? (c : Char) : List Char → Option (List Char)
  | d :: rest => if c = d then some rest else none
  | [] => none

def skipBlanks (letters : List Char) : List Char := letters.dropWhile Numeral.isBlank

/-- The zone at the end of a time of day, and whether it is said to be that of the world. -/
def readZone (letters : List Char) : Option (Int × Option Bool) :=
  match skipBlanks letters with
  | [] => some (0, none)
  | c :: rest =>
    if c = 'Z' || c = 'z' then if (skipBlanks rest).isEmpty then some (0, some true) else none
    else if c = '-' || c = '+' then do
      let (hours, rest) ← digits? 2 0 14 rest
      let (minutes, rest) ← digits? 2 0 59 (← after? ':' rest)
      if (skipBlanks rest).isEmpty then return ((if c = '-' then -1 else 1) * (hours * 60 + minutes), none) else none
    else none

/-- Milliseconds of the digits after a point; what lies below them does not count. -/
def readFraction (letters : List Char) : Int × List Char :=
  match letters with
  | '.' :: c :: rest =>
    if Numeral.isDigit c then
      let found := (c :: rest).takeWhile Numeral.isDigit
      let size := Nat.pow 10 found.length
      (min 999 ((Numeral.value found * 2000 + size) / (2 * size) : Nat), (c :: rest).dropWhile Numeral.isDigit)
    else (0, letters)
  | _ => (0, letters)

/-- A time of day with its zone. -/
def readClock (letters : List Char) : Option Moment := do
  let (hours, rest) ← digits? 2 0 24 letters
  let (minutes, rest) ← digits? 2 0 59 (← after? ':' rest)
  match rest with
  | ':' :: more =>
    let (seconds, more) ← digits? 2 0 59 more
    let (fraction, more) := readFraction more
    let (zone, isWorld) ← readZone more
    return { clock := some (hours, minutes, seconds * 1000 + fraction), zone, isWorld }
  | _ =>
    let (zone, isWorld) ← readZone rest
    return { clock := some (hours, minutes, 0), zone, isWorld }

/-- A date, perhaps with a time of day. -/
def readDate (letters : List Char) : Option Moment := do
  let (negative, rest) := match letters with
    | '-' :: rest => (true, rest)
    | _ => (false, letters)
  let (year, rest) ← digits? 4 0 9999 rest
  let (month, rest) ← digits? 2 1 12 (← after? '-' rest)
  let (day, rest) ← digits? 2 1 31 (← after? '-' rest)
  let rest := rest.dropWhile fun c => Numeral.isBlank c || c = 'T'
  let year := if negative then -year else year
  let dated : Moment := { date := some (year, month, day), excess := excessOf year month day }
  match readClock rest with
  | some time =>
    let found : Moment := { time with date := dated.date, excess := dated.excess }
    if time.zone = 0 then some found else found.settled
  | none => if rest.isEmpty then some dated else none

/-- A number is one of days until a modifier says otherwise. -/
def ofNumber (x : Double) : Moment :=
  let days := (x.times (.ofInt dayLength)).plus ((Double.ofNat 1).dividedBy (.ofNat 2))
  let isDay := !(x.isNegative && !x.isZero) && x.position < (Double.ofDecimal false 53734845 (-1)).position
  { number := some x, instant := if isDay then days.wholePart? else none }

/-- The present as far as it is known here. -/
def present : Moment := { instant := some (epoch + 1767225600000), isWorld := some true }

def lower (letters : List Char) : String := String.ofList (letters.map Char.toLower)

/-- The moment of a text. -/
def ofText? (letters : List Char) : Option Moment :=
  match readDate letters, readClock letters with
  | some moment, _ => some moment
  | none, some time => some time
  | none, none =>
    let numeral := Numeral.read letters
    if lower letters = "now" then some present
    else if lower letters = "subsec" || lower letters = "subsecond" then some { present with fractional := true }
    else if numeral.whole then some (ofNumber (Double.ofDecimal numeral.negative numeral.digits numeral.exponent))
    else none

/-! Modifiers. -/

/-- Adds a rounded number of seconds. -/
def plusSeconds (moment : Moment) (x : Double) (unit : Nat) : Option Moment := do
  let instant ← (← moment.settled).instant
  let half := (Double.ofNat 1).dividedBy (.ofNat 2)
  let change := (x.times (.ofNat 1000)).times (.ofNat unit)
  let change ← (if x.isNegative && !x.isZero then change.minus half else change.plus half).wholePart?
  return moment.setTo (instant + change)

/-- Moves the date by whole years and months; days beyond the end of the month are counted on. -/
def plusMonths (moment : Moment) (years months : Int) : Option Moment := do
  let moment ← moment.spelledOut
  let (year, month, day) ← moment.date
  let month := month + months
  let carry := Int.tdiv (if 0 < month then month - 1 else month - 12) 12
  let (year, month) := (year + years + carry, month - carry * 12)
  return { moment with date := some (year, month, day), excess := excessOf year month day }

/-- Units of time in seconds with a bound for numbers of them. -/
def units : List (String × Nat × Double) :=
  [("second", 1, .ofDecimal false 46427 10), ("minute", 60, .ofDecimal false 77379 8),
   ("hour", 3600, .ofDecimal false 12897 7), ("day", 86400, .ofNat 5373485), ("month", 2592000, .ofNat 176546),
   ("year", 31536000, .ofNat 14713)]

/-- Moves by so many of a unit. -/
def plusUnits (moment : Moment) (x : Double) (name : List Char) : Option Moment := do
  if name.length < 3 || 10 < name.length then none
  let name := lower name
  let name := if name.endsWith "s" then (name.dropEnd 1).toString else name
  let (_, seconds, bound) ← units.find? fun unit => unit.1 = name
  if bound.magnitude ≤ x.magnitude then none
  let moment ← moment.settled
  let whole ← x.wholePart?
  let rest := x.minus (.ofInt whole)
  if name = "month" then ((← moment.plusMonths 0 whole).settled).bind fun moved => keeping moved (moved.plusSeconds rest seconds)
  else if name = "year" then
    ((← moment.plusMonths whole 0).settled).bind fun moved => keeping moved (moved.plusSeconds rest seconds)
  else ({ moment with excess := 0 }).plusSeconds x seconds
where
  /-- Keeps what is known of the end of the month. -/
  keeping (moved : Moment) (found : Option Moment) : Option Moment :=
    found.map fun moment => { moment with excess := moved.excess }

/-- Moves by a time of day. -/
def plusClock (moment : Moment) (negative : Bool) (letters : List Char) : Option Moment := do
  let settled ← (← readClock letters).settled
  let size := ((← settled.instant) - dayLength / 2) % dayLength
  let instant ← (← moment.settled).instant
  return moment.setTo (if negative then instant - size else instant + size)

/-- Moves by years, months and days, and perhaps a time of day. -/
def plusDate (moment : Moment) (negative : Bool) (letters : List Char) : Option Moment := do
  let count := if (letters.drop 4).head? = some '-' then 4 else 5
  let (years, rest) ← digits? count 0 14712 letters
  let (months, rest) ← digits? 2 0 11 (← after? '-' rest)
  let (days, rest) ← digits? 2 0 30 (← after? '-' rest)
  let sign : Int := if negative then -1 else 1
  let moved ← (← moment.plusMonths (sign * years) (sign * months)).settled
  let moved := { moved.setTo ((← moved.instant) + sign * days * dayLength) with excess := moved.excess }
  match rest with
  | [] => return moved
  | c :: rest => if Numeral.isBlank c then moved.plusClock negative rest else none

/-- Whether a date follows the sign of a modifier. -/
def isDateLike (letters : List Char) : Bool :=
  let years := letters.takeWhile Numeral.isDigit
  (years.length = 4 || years.length = 5) && (letters.drop years.length).head? = some '-'

/-- A modifier that starts with a sign or a digit. -/
def moved (moment : Moment) (letters : List Char) : Option Moment :=
  let signed := letters.head?.any fun c => c = '+' || c = '-'
  let negative := letters.head? = some '-'
  let inside := if signed then letters.tail else letters
  let front := letters.takeWhile fun c => c ≠ ':' && !Numeral.isBlank c
  if signed && isDateLike inside then moment.plusDate negative inside
  else if (letters.drop front.length).head? = some ':' then moment.plusClock negative inside
  else
    let numeral := Numeral.read front
    if numeral.whole then
      moment.plusUnits (Double.ofDecimal numeral.negative numeral.digits numeral.exponent)
        (skipBlanks (letters.drop front.length))
    else none

/-- Goes back to the start of a day of the date. -/
def startOf (moment : Moment) (change : Int × Int × Int → Int × Int × Int) : Option Moment := do
  let found ← moment.spelledOut
  return { found with date := found.date.map change, clock := some (0, 0, 0) }

/-- Goes on to a day of the week, counted from Sunday. -/
def toWeekday (moment : Moment) (letters : List Char) : Option Moment := do
  let numeral := Numeral.read letters
  let n ← (Double.ofDecimal numeral.negative numeral.digits numeral.exponent).toInt?
  if !numeral.whole || n < 0 || 6 < n then none
  let instant ← (← (← moment.spelledOut).settled).instant
  let day := (instant + 129600000) / dayLength % 7
  return moment.setTo (instant + (n - if n < day then day - 7 else day) * dayLength)

/-- A number as one of seconds since the year 1970. -/
def asSeconds (moment : Moment) : Option Moment := do
  let x ← moment.number
  let sum := (x.times (.ofNat 1000)).plus (.ofInt epoch)
  if sum.isNegative || (Double.ofInt (greatest + 1)).magnitude ≤ sum.magnitude then none
  return moment.setTo (← (sum.plus ((Double.ofNat 1).dividedBy (.ofNat 2))).wholePart?)

/-- A number as one of seconds if it cannot be one of days. -/
def asEither (moment : Moment) : Option Moment :=
  match moment.number, moment.instant with
  | none, _ => some moment
  | some _, some _ => some { moment with number := none }
  | some _, none => moment.asSeconds

/-- Turns what is not known to be in local time into it. A number that is no day becomes the start of a year. -/
def toLocal (moment : Moment) : Option Moment :=
  if moment.isWorld = some false then some moment
  else
    let start := ofDate 2000 1 1
    match moment.settled with
    | some found => some { found.setTo (found.instant.getD start) with isWorld := some false }
    | none => some { instant := some start, isWorld := some false }

/-- Turns what is not known to be in the time of the world into it. All else that is known gets lost. -/
def toWorld (moment : Moment) : Option Moment :=
  if moment.isWorld = some true then some moment
  else some { instant := some ((moment.settled.bind Moment.instant).getD 0), isWorld := some true }

/-- A modifier, the first one or a later one. -/
def modified (moment : Moment) (isFirst : Bool) (letters : List Char) : Option Moment :=
  let word := lower letters
  if letters.head?.any fun c => c = '+' || c = '-' || Numeral.isDigit c then moment.moved letters
  else if word = "auto" then if isFirst then moment.asEither else none
  else if word = "unixepoch" then if isFirst then moment.asSeconds else none
  else if word = "julianday" then
    if isFirst && moment.number.isSome && moment.instant.isSome then some { moment with number := none } else none
  else if word = "localtime" then moment.toLocal
  else if word = "utc" then moment.toWorld
  else if word = "subsec" || word = "subsecond" then some { moment with fractional := true }
  else if word = "floor" then do
    let found ← moment.settled
    return found.setTo ((← found.instant) - found.excess * dayLength)
  else if word = "ceiling" then do
    let found ← moment.settled
    return { found.setTo (← found.instant) with excess := 0 }
  else if word.startsWith "weekday " then moment.toWeekday (letters.drop 8)
  else if moment.date.isNone && moment.clock.isNone && moment.instant.isNone then none
  else if word = "start of month" then moment.startOf fun (year, month, _) => (year, month, 1)
  else if word = "start of year" then moment.startOf fun (year, _, _) => (year, 1, 1)
  else if word = "start of day" then moment.startOf id
  else none

/-- Applies modifiers in order. -/
def allModified (isFirst : Bool) (moment : Moment) : List Datum → Option Moment
  | [] => some moment
  | datum :: rest => do allModified false (← moment.modified isFirst (← datum.text?).toList) rest

/-- The moment of data: what it starts from and modifiers. -/
def ofData : List Datum → Option Moment
  | [] => some present
  | datum :: modifiers => do
    let start ← match datum with
      | .int _ | .real _ => some (ofNumber datum.toDouble)
      | .null => none
      | _ => ofText? (datum.text?.getD "").toList
    let found ← (← allModified true start modifiers).settled
    let instant ← found.instant
    if instant < 0 || greatest < instant then none
    let isLate := found.date.any fun date => 28 < date.2.2
    return if modifiers.isEmpty && isLate then { found with date := none } else found

/-! Writing. -/

/-- The instant of a moment that has one. -/
def milliseconds (moment : Moment) : Int := moment.instant.getD 0

def dateParts (moment : Moment) : Int × Int × Int := moment.date.getD (dateOf moment.milliseconds)

def clockParts (moment : Moment) : Int × Int × Int := moment.clock.getD (clockOf moment.milliseconds)

/-- A number with zeros before it up to a width. -/
def padded (width : Nat) (filler : Char) (n : Int) : String :=
  let digits := Nat.toDigits 10 n.natAbs
  String.ofList ((if n < 0 then ['-'] else []) ++ (List.replicate (width - digits.length) filler ++ digits))

/-- A number with zeros before it up to a width, to which its sign belongs. -/
def paddedWithSign (width : Nat) (n : Int) : String := padded (if n < 0 then width - 1 else width) '0' n

def dateText (moment : Moment) : String :=
  let (year, month, day) := moment.dateParts
  padded 4 '0' year ++ "-" ++ padded 2 '0' month ++ "-" ++ padded 2 '0' day

/-- Seconds with their thousandths. -/
def secondsText (rest : Int) : String := padded 2 '0' (rest / 1000) ++ "." ++ padded 3 '0' (rest % 1000)

def timeText (moment : Moment) : String :=
  let (hours, minutes, rest) := moment.clockParts
  padded 2 '0' hours ++ ":" ++ padded 2 '0' minutes ++ ":" ++
    if moment.fractional then secondsText rest else padded 2 '0' (rest / 1000)

def dayNumber (moment : Moment) : Double := (Double.ofInt moment.milliseconds).dividedBy (.ofInt dayLength)

/-- Seconds since the year 1970. -/
def seconds (moment : Moment) : Datum :=
  let since := moment.milliseconds - epoch
  if moment.fractional then .real ((Double.ofInt since).dividedBy (.ofNat 1000))
  else .int (Int64.ofInt (moment.milliseconds / 1000 - epoch / 1000))

/-- Days since the start of the year. -/
def dayOfYear (moment : Moment) : Int :=
  let (year, month, day) := moment.dateParts
  (ofDate year month day - ofDate year 1 1) / dayLength

/-- Days since Sunday. -/
def afterSunday (moment : Moment) : Int := (moment.milliseconds + 129600000) / dayLength % 7

/-- Days since Monday. -/
def afterMonday (moment : Moment) : Int := (moment.milliseconds + dayLength / 2) / dayLength % 7

/-- The Thursday of the week that starts on Monday, whose year is the week's. -/
def thursday (moment : Moment) : Moment :=
  moment.setTo (moment.milliseconds + (3 - moment.afterMonday) * dayLength)

/-- An hour on a dial of twelve. -/
def halfDay (hours : Int) : Int := if hours % 12 = 0 then 12 else hours % 12

/-- What a letter of a pattern stands for. -/
def field (moment : Moment) (letter : Char) : Option String :=
  let (year, month, day) := moment.dateParts
  let (hours, minutes, rest) := moment.clockParts
  match letter with
  | 'd' => some (padded 2 '0' day)
  | 'e' => some (padded 2 ' ' day)
  | 'f' => some (secondsText rest)
  | 'F' => some (paddedWithSign 4 year ++ "-" ++ padded 2 '0' month ++ "-" ++ padded 2 '0' day)
  | 'G' => some (paddedWithSign 4 moment.thursday.dateParts.1)
  | 'g' => some (paddedWithSign 2 (Int.tmod moment.thursday.dateParts.1 100))
  | 'V' => some (padded 2 '0' (moment.thursday.dayOfYear / 7 + 1))
  | 'H' => some (padded 2 '0' hours)
  | 'k' => some (padded 2 ' ' hours)
  | 'I' => some (padded 2 '0' (halfDay hours))
  | 'l' => some (padded 2 ' ' (halfDay hours))
  | 'j' => some (padded 3 '0' (moment.dayOfYear + 1))
  | 'J' => some (String.ofList (Format.general 16 true false 'e' moment.dayNumber))
  | 'm' => some (padded 2 '0' month)
  | 'M' => some (padded 2 '0' minutes)
  | 'p' => some (if 12 ≤ hours then "PM" else "AM")
  | 'P' => some (if 12 ≤ hours then "pm" else "am")
  | 'R' => some (padded 2 '0' hours ++ ":" ++ padded 2 '0' minutes)
  | 's' =>
    let since := moment.milliseconds - epoch
    some (if moment.fractional then
      (if since < 0 then "-" else "") ++ toString (since.natAbs / 1000) ++ "." ++ padded 3 '0' (since.natAbs % 1000 : Nat)
      else toString (moment.milliseconds / 1000 - epoch / 1000))
  | 'S' => some (padded 2 '0' (rest / 1000))
  | 'T' => some (({ moment with fractional := false }).timeText)
  | 'u' => some (toString (moment.afterMonday + 1))
  | 'w' => some (toString moment.afterSunday)
  | 'U' => some (padded 2 '0' ((moment.dayOfYear - moment.afterSunday + 7) / 7))
  | 'W' => some (padded 2 '0' ((moment.dayOfYear - moment.afterMonday + 7) / 7))
  | 'Y' => some (paddedWithSign 4 year)
  | '%' => some "%"
  | _ => none

/-- The text of a pattern; nothing if a letter of it stands for nothing. -/
def write (moment : Moment) : List Char → Option String
  | [] => some ""
  | '%' :: letter :: rest => do return (← moment.field letter) ++ (← moment.write rest)
  | ['%'] => none
  | c :: rest => do return String.singleton c ++ (← moment.write rest)

end Moment

/-- What is written of a moment. -/
inductive MomentFunction where
  | date
  | time
  | dateTime
  | dayNumber
  | seconds
  | pattern
  deriving DecidableEq

namespace MomentFunction

/-- Names of functions with the least number of their arguments and the greatest, if there is one. -/
def table : List (String × Nat × Option Nat × MomentFunction) :=
  [("CURRENT_DATE", 0, some 0, .date), ("CURRENT_TIME", 0, some 0, .time), ("CURRENT_TIMESTAMP", 0, some 0, .dateTime),
   ("DATE", 0, none, .date), ("DATETIME", 0, none, .dateTime), ("JULIANDAY", 0, none, .dayNumber),
   ("STRFTIME", 0, none, .pattern), ("TIME", 0, none, .time), ("UNIXEPOCH", 0, none, .seconds)]

def apply (function : MomentFunction) (given : List Datum) : Datum :=
  let moment := Moment.ofData (if function = .pattern then given.tail else given)
  match function, moment with
  | _, none => .null
  | .date, some moment => .text moment.dateText
  | .time, some moment => .text moment.timeText
  | .dateTime, some moment => .text (moment.dateText ++ " " ++ moment.timeText)
  | .dayNumber, some moment => .real moment.dayNumber
  | .seconds, some moment => moment.seconds
  | .pattern, some moment =>
    match (given.headD .null).text? with
    | none => .null
    | some given => ((moment.write (Datum.beforeNul given.toList)).map Datum.text).getD .null

end MomentFunction

end RecordMapper
