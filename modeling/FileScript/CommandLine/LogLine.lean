import FileScript.Attributes
import FileScript.CommandLine.LogFilter
import FileScript.Text.ControlSequence

/-!
# Log lines as they are printed

A log line begins with a time, its level and its source in brackets. When its text goes over several
lines, the further ones are indented. Control sequences in it are not printed.
-/

namespace FileScript

namespace Timespec

/-- The year, the month and the day that come so many days after the first of January 1970. The
years are counted from the first of March, so that a leap day is the last of its year. -/
def date (days : Nat) : Nat × Nat × Nat :=
  let shifted := days + 719468
  let era := shifted / 146097
  let dayOfEra := shifted % 146097
  let yearOfEra := (dayOfEra - dayOfEra / 1460 + dayOfEra / 36524 - dayOfEra / 146096) / 365
  let dayOfYear := dayOfEra - (365 * yearOfEra + yearOfEra / 4 - yearOfEra / 100)
  let month := (5 * dayOfYear + 2) / 153
  let day := dayOfYear - (153 * month + 2) / 5 + 1
  let year := yearOfEra + 400 * era
  if month < 10 then (year, month + 3, day) else (year + 1, month - 9, day)

/-- A number with at least so many digits. -/
def digits (width n : Nat) : String :=
  let text := toString n
  "".pushn '0' (width - text.length) ++ text

/-- A time as the log shows it: the date and the time of day of the zero meridian. -/
def stamp (t : Timespec) : String :=
  let (year, month, day) := date (t.seconds / 86400)
  let second := t.seconds % 86400
  let time := [second / 3600, second / 60 % 60, second % 60].map (digits 2)
  let date := [digits 4 year, digits 2 month, digits 2 day]
  "-".intercalate date ++ "T" ++ ":".intercalate time ++ "Z"

end Timespec

namespace LogLevel

/-- The name of a level, with spaces up to the length of the longest. -/
def paddedName (level : LogLevel) : String := level.name.pushn ' ' (5 - level.name.length)

end LogLevel

namespace LogEntry

/-- What stands before the text of a log line that is printed at a time. -/
def heading (time : String) (e : LogEntry) : String :=
  s!"[{time} {e.level.paddedName} {e.source.target}] "

/-- A log line as it is printed at a time. -/
def printed (time : String) (e : LogEntry) : ByteArray :=
  let text := (e.text.splitOn "\n")
  let whole := e.heading time ++ "\n    ".intercalate text ++ "\n"
  (Text.shown whole.toUTF8.toList).toByteArray

end LogEntry

namespace Notices

/-- The notices that a filter lets through, as they are printed at a time. -/
def printed (filter : CommandLine.LogFilter) (time : String) (notices : Notices) : ByteArray :=
  notices.foldl (fun bytes notice =>
    match notice with
    | .entry e => if filter.allows e then bytes ++ e.printed time else bytes
    | .text more => bytes ++ more) .empty

end Notices

end FileScript
