import FileScript.Shell.Calendar.Date

/-!
# Dates in words

A text denotes a moment by several items: a day of the calendar, a time of the day, a time zone, a
day of the week, and distances from there. What it leaves open is taken from the present.
-/

namespace FileScript.Shell.Calendar

/-! ## Tokens -/

/-- What a word of a date means. -/
inductive Word where
  | half (afternoon : Bool)
  | month (number : Nat)
  | weekday (number : Nat)
  /-- A time zone, by the seconds that its clocks are ahead. -/
  | zone (offset : Int)
  /-- Stands between a day and a time, or for a time zone. -/
  | divider
  /-- A number of months. -/
  | months (count : Int)
  | seconds (count : Int)
  | days (count : Int)
  /-- A number of days from the present one. -/
  | shift (days : Int)
  | ordinal (number : Int)
  /-- Turns a distance, if so. -/
  | turn (back : Bool)
  deriving DecidableEq, Repr, Inhabited

/-- The parts of a text that denotes a date. -/
inductive Token where
  /-- A number with its sign, if it has one, its number of digits, and the nanoseconds of a
  fraction. -/
  | number (sign : Option Bool) (value digits : Nat) (fraction : Option Nat)
  | word (word : Word)
  | sign (c : Char)
  deriving DecidableEq, Repr, Inhabited

/-- The units of time. -/
def units : List (String × Word) :=
  [("year", .months 12), ("month", .months 1), ("fortnight", .days 14), ("week", .days 7),
    ("day", .days 1), ("hour", .seconds 3600), ("minute", .seconds 60), ("min", .seconds 60),
    ("second", .seconds 1), ("sec", .seconds 1)]

/-- Words for numbers and for days near the present one. -/
def nearWords : List (String × Word) :=
  [("tomorrow", .shift 1), ("yesterday", .shift (-1)), ("today", .shift 0), ("now", .shift 0),
    ("last", .ordinal (-1)), ("this", .ordinal 0), ("next", .ordinal 1), ("first", .ordinal 1),
    ("third", .ordinal 3), ("fourth", .ordinal 4), ("fifth", .ordinal 5), ("sixth", .ordinal 6),
    ("seventh", .ordinal 7), ("eighth", .ordinal 8), ("ninth", .ordinal 9),
    ("tenth", .ordinal 10), ("eleventh", .ordinal 11), ("twelfth", .ordinal 12),
    ("ago", .turn true), ("hence", .turn false)]

/-- The hours by which the clocks of time zones are ahead. -/
def zones : List (String × Int) :=
  [("gmt", 0), ("ut", 0), ("utc", 0), ("wet", 0), ("west", 1), ("bst", 1), ("art", -3),
    ("brt", -3), ("brst", -2), ("ast", -4), ("adt", -3), ("clt", -4), ("clst", -3), ("est", -5),
    ("edt", -4), ("cst", -6), ("cdt", -5), ("mst", -7), ("mdt", -6), ("pst", -8), ("pdt", -7),
    ("akst", -9), ("akdt", -8), ("hst", -10), ("hast", -10), ("hadt", -9), ("sst", -12),
    ("wat", 1), ("cet", 1), ("cest", 2), ("met", 1), ("mez", 1), ("mest", 2), ("mesz", 2),
    ("eet", 2), ("eest", 3), ("cat", 2), ("sast", 2), ("eat", 3), ("msk", 3), ("msd", 4),
    ("sgt", 8), ("kst", 9), ("jst", 9), ("gst", 10), ("nzst", 12), ("nzdt", 13)]

/-- The time zone that a single letter stands for. -/
def letterZone? (c : Char) : Option Word :=
  let code := c.toNat - 'a'.toNat
  if c = 't' then some .divider
  else if c = 'z' ∨ c = 'j' then some (.zone 0)
  else if 'a' ≤ c ∧ c ≤ 'i' then some (.zone (3600 * (code + 1)))
  else if 'k' ≤ c ∧ c ≤ 'm' then some (.zone (3600 * code))
  else if 'n' ≤ c ∧ c ≤ 'y' then some (.zone (-3600 * ((code : Int) - 12)))
  else none

/-- The number of a name in a list, of which the first letters are enough. -/
def nameIndex? (names : List String) (word : String) : Option Nat :=
  let names := names.map (·.toLower)
  if word.length = 3 then names.findIdx? fun name => shortened name = word else names.idxOf? word

/-- The number of the day that a name in a form of its own stands for. -/
def otherDay? : String → Option Nat
  | "tues" => some 2
  | "wednes" => some 3
  | "thur" | "thurs" => some 4
  | _ => none

/-- What a word in small letters means. -/
def Word.ofName? (name : String) : Option Word :=
  let bare := String.ofList (name.toList.filter (· ≠ '.'))
  let short := if name.endsWith "." then (name.dropEnd 1).toString else name
  let single := if name.endsWith "s" then (name.dropEnd 1).toString else name
  let unit := (units.lookup name).or (units.lookup single)
  match bare with
  | "am" => some (.half false)
  | "pm" => some (.half true)
  | _ =>
    match nameIndex? Date.monthNames short, nameIndex? Date.dayNames short with
    | some i, _ => some (.month (i + 1))
    | none, some i => some (.weekday i)
    | none, none =>
      if short = "sept" then some (.month 9)
      else
        ((otherDay? short).map .weekday).or <|
          ((zones.lookup bare).map fun hours => .zone (3600 * hours)).or <|
          unit.or <|
          (nearWords.lookup name).or <|
          match bare.toList with
          | [c] => letterZone? c
          | _ => none

namespace Token

/-- The number at the beginning of a text behind its sign, and what follows it. -/
def readNumber (sign : Option Bool) (text : List Char) : Token × List Char :=
  let digits := text.takeWhile Char.isDigit
  let value := (Integer.digits 10 digits).1
  let plain := (number sign value digits.length none, text.drop digits.length)
  match text.drop digits.length with
  | mark :: rest =>
    let places := rest.takeWhile Char.isDigit
    if (mark = '.' ∨ mark = ',') ∧ places ≠ [] then
      let shown := (places ++ List.replicate 9 '0').take 9
      (number sign value digits.length (some (Integer.digits 10 shown).1), rest.drop places.length)
    else plain
  | [] => plain

/-- The tokens of a text. A text in parentheses says nothing. -/
def read : Nat → (depth : Nat) → List Char → Option (List Token)
  | 0, _, _ => none
  | _, depth, [] => if depth = 0 then some [] else none
  | fuel + 1, depth, c :: rest =>
    if c = '(' then read fuel (depth + 1) rest
    else if depth > 0 then read fuel (if c = ')' then depth - 1 else depth) rest
    else if isBlank c then read fuel depth rest
    else if c.isDigit then
      let (token, rest) := readNumber none (c :: rest)
      (read fuel depth rest).map (token :: ·)
    else if c = '-' ∨ c = '+' then
      let after := rest.dropWhile isBlank
      if after.head?.any Char.isDigit then
        let (token, rest) := readNumber (some (c = '-')) after
        (read fuel depth rest).map (token :: ·)
      else read fuel depth rest
    else if c.isAlpha then
      let letters := (c :: rest).takeWhile fun d => d.isAlpha || d = '.'
      match Word.ofName? (String.ofList letters).toLower with
      | some w => (read fuel depth ((c :: rest).drop letters.length)).map (word w :: ·)
      | none => none
    else (read fuel depth rest).map (sign c :: ·)

end Token

/-! ## Items -/

/-- What the items of a text have said. -/
structure Parts where
  year : Option (Nat × Nat) := none
  month : Nat := 0
  day : Nat := 0
  hour : Nat := 0
  minute : Nat := 0
  second : Nat := 0
  nanosecond : Nat := 0
  half : Option Bool := none
  /-- The seconds that clocks are ahead. -/
  offset : Int := 0
  weekday : Nat := 0
  ordinal : Int := 0
  /-- The distance from the date. -/
  months : Int := 0
  days : Int := 0
  seconds : Int := 0
  nanoseconds : Int := 0
  dateCount : Nat := 0
  timeCount : Nat := 0
  weekdayCount : Nat := 0
  zoneCount : Nat := 0
  distanceCount : Nat := 0
  deriving Repr, Inhabited

namespace Parts

/-- Adds a day of the calendar. -/
def withDate (p : Parts) (year : Option (Nat × Nat)) (month day : Nat) : Parts :=
  { p with year := year.or p.year, month, day, dateCount := p.dateCount + 1 }

/-- Adds a time of the day. -/
def withTime (p : Parts) (hour minute second nanosecond : Nat) (half : Option Bool := none) :
    Parts :=
  { p with hour, minute, second, nanosecond, half, timeCount := p.timeCount + 1 }

/-- Adds the offset of a time zone. -/
def withZone (p : Parts) (offset : Int) : Parts :=
  { p with offset, zoneCount := p.zoneCount + 1 }

/-- Adds a distance of so many units. -/
def withDistance (p : Parts) (count : Int) (unit : Word) (fraction : Int := 0) : Parts :=
  let p := { p with distanceCount := p.distanceCount + 1 }
  match unit with
  | .months n => { p with months := p.months + count * n }
  | .days n => { p with days := p.days + count * n }
  | .shift n => { p with days := p.days + count * n }
  | .seconds n =>
    { p with seconds := p.seconds + count * n, nanoseconds := p.nanoseconds + fraction }
  | _ => p

/-- Adds a day of the week. -/
def withWeekday (p : Parts) (ordinal : Int) (weekday : Nat) : Parts :=
  { p with ordinal, weekday, weekdayCount := p.weekdayCount + 1 }

end Parts

/-- A number with its sign. -/
def signedValue (sign : Option Bool) (value : Nat) : Int := if sign = some true then -value else value

/-- The offset that a number with a sign denotes, with minutes behind a colon or in its last two
digits. -/
def offsetOf (negative : Bool) (value digits : Nat) (minutes : Option Nat) : Option Int :=
  let total := match minutes with
    | some m => value * 60 + m
    | none => if digits ≤ 2 then value * 60 else value / 100 * 60 + value % 100
  if total > 24 * 60 then none else some (if negative then -(total * 60 : Int) else total * 60)

/-- The offset of a time zone, if one comes next, and what follows it. -/
def zoneOffset (p : Parts) (tokens : List Token) : Option (Parts × List Token) :=
  match tokens with
  | .number (some negative) value digits none :: .sign ':' :: .number none m _ none :: rest => do
    return (p.withZone (← offsetOf negative value digits (some m)), rest)
  | .number (some negative) value digits none :: rest => do
    return (p.withZone (← offsetOf negative value digits none), rest)
  | _ => some (p, tokens)

/-- Reads what follows the hour and the minute of a time. -/
def timeRest (p : Parts) (hour minute : Nat) (tokens : List Token) :
    Option (Parts × List Token) :=
  let ended (second nanosecond : Nat) (tokens : List Token) : Option (Parts × List Token) :=
    match tokens with
    | .word (.half afternoon) :: rest =>
      some (p.withTime hour minute second nanosecond (some afternoon), rest)
    | _ => zoneOffset (p.withTime hour minute second nanosecond) tokens
  match tokens with
  | .sign ':' :: .number none second _ fraction :: rest => ended second (fraction.getD 0) rest
  | _ => ended 0 0 tokens

/-- Whether a word is a unit of time. -/
def Word.isUnit : Word → Bool
  | .months _ | .days _ | .seconds _ => true
  | _ => false

/-- Adds a distance, which can be turned by the next word. -/
def distance (p : Parts) (count : Int) (unit : Word) (fraction : Int) (tokens : List Token) :
    Option (Parts × List Token) :=
  match tokens with
  | .word (.turn back) :: rest =>
    some (p.withDistance (if back then -count else count) unit
      (if back then -fraction else fraction), rest)
  | _ => some (p.withDistance count unit fraction, tokens)

/-- Adds a number that stands alone: a year, a day in eight digits, or a time. -/
def plainNumber (p : Parts) (value digits : Nat) : Parts :=
  if p.dateCount > 0 ∧ p.year.isNone ∧ p.distanceCount = 0 ∧ (p.timeCount > 0 ∨ digits > 2) then
    { p with year := some (value, digits) }
  else if digits > 4 then
    p.withDate (some (value / 10000, digits - 4)) (value / 100 % 100) (value % 100)
  else if digits ≤ 2 then p.withTime value 0 0 0
  else p.withTime (value / 100) (value % 100) 0 0

/-- Reads one item. -/
def item (p : Parts) (tokens : List Token) : Option (Parts × List Token) :=
  match tokens with
  | .number none hour _ none :: .sign ':' :: .number none minute _ none :: rest =>
    timeRest p hour minute rest
  | .number none hour _ none :: .word (.half afternoon) :: rest =>
    some (p.withTime hour 0 0 0 (some afternoon), rest)
  | .number none a digits none :: .sign '/' :: .number none b _ none :: .sign '/' ::
      .number none c more none :: rest =>
    if digits ≥ 4 then some (p.withDate (some (a, digits)) b c, rest)
    else some (p.withDate (some (c, more)) a b, rest)
  | .number none month _ none :: .sign '/' :: .number none day _ none :: rest =>
    some (p.withDate none month day, rest)
  | .number none year digits none :: .number (some true) month _ none ::
      .number (some true) day _ none :: rest =>
    let p := p.withDate (some (year, digits)) month day
    match rest with
    | .word .divider :: rest =>
      match rest with
      | .number none hour _ none :: .sign ':' :: .number none minute _ none :: rest =>
        timeRest p hour minute rest
      | .number none hour _ none :: .number (some negative) n digits none :: rest =>
        zoneOffset (p.withTime hour 0 0 0) (.number (some negative) n digits none :: rest)
      | .number .. :: _ => none
      | _ => some (p, .word .divider :: rest)
    | _ => some (p, rest)
  | .number none day _ none :: .word (.month month) :: .number (some true) year digits none ::
      rest => some (p.withDate (some (year, digits)) month day, rest)
  | .number none day _ none :: .word (.month month) :: .number none year digits none :: rest =>
    some (p.withDate (some (year, digits)) month day, rest)
  | .number none day _ none :: .word (.month month) :: rest =>
    some (p.withDate none month day, rest)
  | .word (.month month) :: .number none day _ none :: .sign ',' ::
      .number none year digits none :: rest =>
    some (p.withDate (some (year, digits)) month day, rest)
  | .word (.month month) :: .number (some true) day _ none ::
      .number (some true) year digits none :: rest =>
    some (p.withDate (some (year, digits)) month day, rest)
  | .word (.month month) :: .number none day _ none :: rest =>
    some (p.withDate none month day, rest)
  | .word (.weekday day) :: .sign ',' :: rest => some (p.withWeekday 0 day, rest)
  | .word (.weekday day) :: rest => some (p.withWeekday 0 day, rest)
  | .word (.ordinal n) :: .word (.weekday day) :: rest => some (p.withWeekday n day, rest)
  | .number none n _ none :: .word (.weekday day) :: rest => some (p.withWeekday n day, rest)
  | .word (.ordinal n) :: .word unit :: rest =>
    if unit.isUnit then distance p n unit 0 rest else none
  | .number sign n digits fraction :: .word unit :: rest =>
    if unit.isUnit then
      let part : Int := (fraction.getD 0 : Nat)
      distance p (signedValue sign n) unit (if sign = some true then -part else part) rest
    else if sign.isNone ∧ fraction.isNone then some (plainNumber p n digits, .word unit :: rest)
    else none
  | .word (.shift days) :: rest => some (p.withDistance 1 (.shift days), rest)
  | .word (.zone offset) :: .number (some negative) n digits none :: rest =>
    match rest with
    | .word unit :: more =>
      if unit.isUnit then
        distance (p.withZone offset) (signedValue (some negative) n) unit 0 more
      else (offsetOf negative n digits none).map fun more => (p.withZone (offset + more), rest)
    | .sign ':' :: .number none m _ none :: rest =>
      (offsetOf negative n digits (some m)).map fun more => (p.withZone (offset + more), rest)
    | _ => (offsetOf negative n digits none).map fun more => (p.withZone (offset + more), rest)
  | .word (.zone offset) :: rest => some (p.withZone offset, rest)
  | .word .divider :: rest => some (p.withZone (-25200), rest)
  | .word unit :: rest => if unit.isUnit then distance p 1 unit 0 rest else none
  | .number none n digits none :: rest => some (plainNumber p n digits, rest)
  | _ => none

/-- Reads all items. -/
def items : Nat → Parts → List Token → Option Parts
  | 0, _, _ => none
  | _, p, [] => some p
  | fuel + 1, p, tokens => do
    let (p, rest) ← item p tokens
    items fuel p rest

/-! ## Moments -/

/-- The year that a number stands for. Two digits are completed. -/
def fullYear (value digits : Nat) : Nat :=
  if digits = 2 then if value < 69 then 2000 + value else 1900 + value else value

/-- The hour of a day that a number stands for. -/
def fullHour? (hour : Nat) (half : Option Bool) : Option Nat :=
  match half with
  | none => if hour < 24 then some hour else none
  | some afternoon =>
    if 1 ≤ hour ∧ hour ≤ 12 then some (hour % 12 + if afternoon then 12 else 0) else none

/-- The moment that items denote, in seconds and nanoseconds, if there is one. -/
def Parts.moment? (p : Parts) (now : Date) : Option (Int × Nat) := do
  guard (p.dateCount ≤ 1 ∧ p.timeCount ≤ 1 ∧ p.weekdayCount ≤ 1 ∧ p.zoneCount ≤ 1)
  let isAway := p.distanceCount > 0 && p.dateCount = 0 && p.weekdayCount = 0
  let hour ← fullHour? p.hour p.half
  let year : Int := match p.year with
    | some (value, digits) => fullYear value digits
    | none => now.year
  let start : Date := { now with year }
  let start := if p.dateCount > 0 then { start with month := p.month, day := p.day } else start
  let start :=
    if p.timeCount > 0 then
      { start with hour, minute := p.minute, second := p.second, nanosecond := p.nanosecond }
    else if isAway then start
    else { start with hour := 0, minute := 0, second := 0, nanosecond := 0 }
  guard start.isReal
  let turned : Int :=
    if p.weekdayCount > 0 ∧ p.dateCount = 0 then
      let ahead := ((p.weekday : Int) - start.weekday).fmod 7
      let weeks := if p.ordinal > 0 ∧ ahead ≠ 0 then p.ordinal - 1 else p.ordinal
      ahead + 7 * weeks
    else 0
  let days := daysToMonth start.year (start.month + p.months) + start.day - 1 + turned + p.days
  let time : Int := start.hour * 3600 + start.minute * 60 + start.second
  let seconds := days * daySeconds + time + p.seconds - p.offset
  let nanoseconds : Int := start.nanosecond + p.nanoseconds
  return (seconds + nanoseconds.fdiv secondLength, (nanoseconds.fmod secondLength).toNat)

/-- The moment that a text denotes, if it denotes one. An at sign stands before a number of
seconds. -/
def ofText? (now : Date) (text : String) : Option (Int × Nat) := do
  let text := text.toList.map Char.toLower
  let tokens ← Token.read (text.length + 1) 0 text
  match tokens with
  | [.sign '@', .number sign n _ fraction] =>
    match sign, fraction with
    | some true, some part =>
      if part = 0 then return (-n, 0) else return (-(n : Int) - 1, 1000000000 - part)
    | _, _ => return (signedValue sign n, fraction.getD 0)
  | _ => (← items (tokens.length + 1) {} tokens).moment? now

end FileScript.Shell.Calendar
