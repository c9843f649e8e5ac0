import FileScript.Shell.Integer
import FileScript.Shell.Octets

/-!
# Days and times

A moment is a number of seconds from the beginning of the year 1970 on. A date tells its year,
month and day, and its time of the day. Fields of a date are written as formats ask for them, by
letters behind percent signs.
-/

namespace FileScript.Shell.Calendar

/-! ## Days -/

/-- The days from the first of January of the year 1970 to the first day of a month. The number of
the month can lie outside a year. -/
def daysToMonth (year month : Int) : Int :=
  let months := year * 12 + month - 1
  let year := months.fdiv 12
  let month := months.fmod 12 + 1
  let y := if month ≤ 2 then year - 1 else year
  let era := y.fdiv 400
  let yearOfEra := y - era * 400
  let dayOfYear := (153 * (if month > 2 then month - 3 else month + 9) + 2) / 5
  era * 146097 + yearOfEra * 365 + yearOfEra / 4 - yearOfEra / 100 + dayOfYear - 719468

/-- The days from the first of January of the year 1970 to a day. -/
def daysUntil (year month day : Int) : Int := daysToMonth year month + day - 1

/-- The seconds of a day. -/
def daySeconds : Int := 86400

/-- The nanoseconds of a second. -/
def secondLength : Int := 1000000000

/-- A moment of the present year, from which the start of the program is not told apart. -/
def presentDay : Int := daysUntil 2026 1 1

/-- The seconds of a moment that is counted in nanoseconds from the start of the program on, and the
nanoseconds beyond them. -/
def secondsAt (time : Int) : Int × Nat :=
  (presentDay * daySeconds + time.fdiv secondLength, (time.fmod secondLength).toNat)

/-- A moment, counted in nanoseconds from the start of the program on. -/
def timeAt (seconds : Int) (nanoseconds : Nat := 0) : Int :=
  (seconds - presentDay * daySeconds) * secondLength + nanoseconds

/-- A day of the calendar with a time of the day. -/
structure Date where
  year : Int
  month : Nat
  day : Nat
  hour : Nat := 0
  minute : Nat := 0
  second : Nat := 0
  nanosecond : Nat := 0
  deriving DecidableEq, Repr, Inhabited

namespace Date

/-- The date of a moment. -/
def ofSeconds (seconds : Int) (nanosecond : Nat := 0) : Date :=
  let days := seconds.fdiv daySeconds
  let rest := (seconds.fmod daySeconds).toNat
  let z := days + 719468
  let era := z.fdiv 146097
  let dayOfEra := z - era * 146097
  let yearOfEra :=
    (dayOfEra - dayOfEra / 1460 + dayOfEra / 36524 - dayOfEra / 146096) / 365
  let dayOfYear := dayOfEra - (365 * yearOfEra + yearOfEra / 4 - yearOfEra / 100)
  let shifted := (5 * dayOfYear + 2) / 153
  let day := dayOfYear - (153 * shifted + 2) / 5 + 1
  let month := if shifted < 10 then shifted + 3 else shifted - 9
  let year := yearOfEra + era * 400 + if month ≤ 2 then 1 else 0
  { year, month := month.toNat, day := day.toNat, hour := rest / 3600, minute := rest / 60 % 60
    second := rest % 60, nanosecond }

/-- The date of a moment that is counted in nanoseconds from the start of the program on. -/
def ofTime (time : Int) : Date :=
  let (seconds, nanosecond) := secondsAt time
  ofSeconds seconds nanosecond

/-- The days from the first of January of the year 1970 to a date. -/
def days (d : Date) : Int := daysUntil d.year d.month d.day

/-- The seconds of a date. -/
def seconds (d : Date) : Int :=
  d.days * daySeconds + d.hour * 3600 + d.minute * 60 + d.second

/-- Whether there is a day with these numbers in the calendar, and a time. -/
def isReal (d : Date) : Bool := { ofSeconds d.seconds with nanosecond := d.nanosecond } = d

/-- The day of the week. Sunday is the first one. -/
def weekday (d : Date) : Nat := ((d.days + 4).fmod 7).toNat

/-- The day of the year. -/
def yearDay (d : Date) : Nat := (d.days - daysUntil d.year 1 1).toNat + 1

/-- The date of the day on which the middle of a week lies that begins with a Monday. -/
def thursday (d : Date) : Date := ofSeconds ((d.days - ((d.weekday + 6) % 7 : Nat) + 3) * daySeconds)

/-- The names of days. -/
def dayNames : List String :=
  ["Sunday", "Monday", "Tuesday", "Wednesday", "Thursday", "Friday", "Saturday"]

/-- The names of months. -/
def monthNames : List String :=
  ["January", "February", "March", "April", "May", "June", "July", "August", "September",
    "October", "November", "December"]

/-- The name of the day of the week. -/
def dayName (d : Date) : String := dayNames.getD d.weekday ""

/-- The name of the month. -/
def monthName (d : Date) : String := monthNames.getD (d.month - 1) ""

end Date

/-! ## Fields -/

/-- A field of a date: a number with the least number of its digits, or a text. -/
inductive Field where
  | number (value : Int) (width : Nat) (blank : Bool := false)
  | text (text : String)
  deriving Repr, Inhabited

/-- A text cut to its first three letters. -/
def shortened (name : String) : String := (name.take 3).toString

/-- The hour on a clock with twelve hours. -/
def clockHour (hour : Nat) : Nat := if hour % 12 = 0 then 12 else hour % 12

/-- The field that a letter stands for. -/
def Date.field? (d : Date) (c : Char) : Option Field :=
  let half (morning evening : String) : Field := .text (if d.hour < 12 then morning else evening)
  match c with
  | 'a' => some (.text (shortened d.dayName))
  | 'A' => some (.text d.dayName)
  | 'b' | 'h' => some (.text (shortened d.monthName))
  | 'B' => some (.text d.monthName)
  | 'C' => some (.number (d.year.fdiv 100) 2)
  | 'd' => some (.number d.day 2)
  | 'e' => some (.number d.day 2 true)
  | 'g' => some (.number (d.thursday.year.fmod 100) 2)
  | 'G' => some (.number d.thursday.year 4)
  | 'H' => some (.number d.hour 2)
  | 'I' => some (.number (clockHour d.hour) 2)
  | 'j' => some (.number d.yearDay 3)
  | 'k' => some (.number d.hour 2 true)
  | 'l' => some (.number (clockHour d.hour) 2 true)
  | 'm' => some (.number d.month 2)
  | 'M' => some (.number d.minute 2)
  | 'n' => some (.text "\n")
  | 'p' => some (half "AM" "PM")
  | 'P' => some (half "am" "pm")
  | 'q' => some (.number ((d.month + 2) / 3 : Nat) 1)
  | 's' => some (.number d.seconds 1)
  | 'S' => some (.number d.second 2)
  | 't' => some (.text "\t")
  | 'u' => some (.number ((d.weekday + 6) % 7 + 1 : Nat) 1)
  | 'U' => some (.number ((d.yearDay + 6 - d.weekday) / 7 : Nat) 2)
  | 'V' => some (.number ((d.thursday.yearDay - 1) / 7 + 1 : Nat) 2)
  | 'w' => some (.number d.weekday 1)
  | 'W' => some (.number ((d.yearDay + 6 - (d.weekday + 6) % 7) / 7 : Nat) 2)
  | 'y' => some (.number (d.year.fmod 100) 2)
  | 'Y' => some (.number d.year 4)
  | 'Z' => some (.text "UTC")
  | '%' => some (.text "%")
  | _ => none

/-- The format that a letter stands for. -/
def composed? : Char → Option String
  | 'c' => some "%a %b %e %H:%M:%S %Y"
  | 'D' | 'x' => some "%m/%d/%y"
  | 'F' => some "%Y-%m-%d"
  | 'r' => some "%I:%M:%S %p"
  | 'R' => some "%H:%M"
  | 'T' | 'X' => some "%H:%M:%S"
  | _ => none

/-- How a field is changed before it is written. -/
structure Adjustment where
  /-- The character that fills a field. A dash leaves it unfilled. -/
  filling : Option Char := none
  plus : Bool := false
  upper : Bool := false
  /-- Whether capital and small letters are exchanged where that makes a difference. -/
  opposite : Bool := false
  width : Option Nat := none
  deriving Repr, Inhabited

namespace Adjustment

/-- Fills a text at its left. -/
def fill (a : Adjustment) (usual : Char) (width : Nat) (sign digits : String) : String :=
  let width := a.width.getD width
  let missing := width - sign.length - digits.length
  match a.filling.getD usual with
  | '-' => sign ++ digits
  | '0' => sign ++ "".pushn '0' missing ++ digits
  | c => "".pushn c missing ++ sign ++ digits

/-- A text with its letters as the adjustment asks for them. -/
def inCase (a : Adjustment) (letter : Char) (text : String) : String :=
  if a.opposite ∧ (letter = 'p' ∨ letter = 'Z') then text.map Char.toLower
  else if a.upper ∨ a.opposite ∧ letter ∈ ['a', 'A', 'b', 'B', 'h'] then text.map Char.toUpper
  else text

/-- A field as it is written. -/
def apply (a : Adjustment) (letter : Char) : Field → String
  | .number value width blank =>
    let exceeds := value.natAbs ≥ Nat.pow 10 width || a.width.any (width < ·)
    let sign := if value < 0 then "-" else if a.plus ∧ exceeds then "+" else ""
    a.fill (if blank then ' ' else '0') width sign (toString value.natAbs)
  | .text text =>
    match letter with
    | 'n' | 't' | '%' => a.fill ' ' 0 "" text
    | _ => a.fill ' ' 0 "" (a.inCase letter text)

/-- The adjustment at the beginning of a text, and what follows it. -/
def ofText (text : List Char) : Adjustment × List Char :=
  let flags := text.takeWhile (· ∈ ['-', '_', '0', '+', '^', '#'])
  let (width, rest) := Integer.digits 10 (text.drop flags.length)
  let isGiven := rest.length < text.length - flags.length
  let filling := (flags.filter (· ∈ ['-', '_', '0', '+'])).getLast?
  ({ filling := filling.map fun c => if c = '_' then ' ' else if c = '+' then '0' else c
     plus := filling = some '+', upper := '^' ∈ flags, opposite := '#' ∈ flags
     width := if isGiven then some width else none }, rest)

end Adjustment

/-- The offset of the time zone with so many colons between its parts, and how many characters it
usually has. -/
def zoneParts (colons : Nat) : String × Nat :=
  match colons with
  | 0 => ("0", 5)
  | 1 => ("0:00", 6)
  | 2 => ("0:00:00", 9)
  | _ => ("0", 3)

/-- The nanoseconds of a second as an adjustment asks for them. -/
def Adjustment.fraction (a : Adjustment) (nanosecond : Nat) : String :=
  let places := a.width.getD 9
  let digits := ((Octets.padded 9 nanosecond).take places).toString
  let short := match (digits.toList.reverse.dropWhile (· = '0')).reverse with
    | [] => "0"
    | shortened => String.ofList shortened
  match a.filling, a.width with
  | some ' ', _ => short.pushn ' ' (places - short.length)
  | some '-', some _ => short
  | _, _ => digits.pushn '0' (places - digits.length)

/-- A date in a format. What stands for no field is written as it is. -/
def Date.format (d : Date) : Nat → List Char → String
  | 0, _ | _, [] => ""
  | fuel + 1, '%' :: text =>
    let (a, rest) := Adjustment.ofText text
    let colons := (rest.takeWhile (· = ':')).length
    let rest := rest.drop colons
    let rest := match rest with
      | 'E' :: c :: more => if c ∈ ['c', 'C', 'x', 'X', 'y', 'Y'] then c :: more else rest
      | 'O' :: c :: more =>
        if c ∈ ['d', 'e', 'H', 'I', 'm', 'M', 'S', 'u', 'U', 'V', 'w', 'W', 'y'] then c :: more
        else rest
      | _ => rest
    match rest with
    | [] => "%" ++ String.ofList text
    | c :: more =>
      let shown :=
        if c = 'z' ∧ colons ≤ 3 then
          let (digits, width) := zoneParts colons
          a.fill '0' width "+" digits
        else if colons > 0 then "%" ++ String.ofList (text.take (text.length - more.length))
        else if c = 'N' then a.fraction d.nanosecond
        else match d.field? c, composed? c with
          | some field, _ => a.apply c field
          | none, some format =>
            let inner := d.format fuel format.toList
            a.fill ' ' 0 "" (if a.upper then inner.map Char.toUpper else inner)
          | none, none => "%" ++ String.ofList (text.take (text.length - more.length))
      shown ++ d.format fuel more
  | fuel + 1, c :: rest => c.toString ++ d.format fuel rest

/-- A date in a format. -/
def Date.inFormat (d : Date) (format : String) : String :=
  d.format (format.length + 32) format.toList

end FileScript.Shell.Calendar
