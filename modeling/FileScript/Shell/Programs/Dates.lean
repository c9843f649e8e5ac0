import FileScript.Shell.Programs.Making

/-!
# Dates in formats

A moment is given in words, by the time of a file, or is the present one. It is printed in a format of
which fields stand behind percent signs.
-/

namespace FileScript.Shell

namespace Programs

open Calendar (Date secondsAt)
open Effect

/-- The formats of dates in digits, by how exact they are. -/
def digitalFormats : List (String × String) :=
  [("hours", "%Y-%m-%dT%H%:z"), ("minutes", "%Y-%m-%dT%H:%M%:z"), ("date", "%Y-%m-%d"),
    ("seconds", "%Y-%m-%dT%H:%M:%S%:z"), ("ns", "%Y-%m-%dT%H:%M:%S,%N%:z")]

/-- The formats of dates in digits with a space before the time. -/
def spacedFormats : List (String × String) :=
  [("date", "%Y-%m-%d"), ("seconds", "%Y-%m-%d %H:%M:%S%:z"), ("ns", "%Y-%m-%d %H:%M:%S.%N%:z")]

/-- The format that an option asks for, or what is wrong with its value. -/
def formatOf (option : String × String) : Except String (Option String) :=
  let among (formats : List (String × String)) (value : String) : Except String (Option String) :=
    (chosen (formats.map (·.1)) s!"--{option.1}" value).map fun name => formats.lookup name
  match option.1 with
  | "iso-8601" => among digitalFormats (if option.2 = "" then "date" else option.2)
  | "rfc-3339" => among spacedFormats option.2
  | "rfc-email" => .ok (some "%a, %d %b %Y %H:%M:%S %z")
  | _ => .ok none

/-- The format in which dates are printed that ask for none. -/
def usualFormat : String := "%a %b %e %H:%M:%S %Z %Y"

/-- The options of `date`. -/
def dateOptions : List Known :=
  [valued 'd' "date", long "debug", valued 'f' "file", flag 'I' "iso-8601" .ownValue,
    valued 'r' "reference", flag 'R' "rfc-email", also "rfc-email" "rfc-822",
    also "rfc-email" "rfc-2822", long "rfc-3339" .value, valued 's' "set", flag 'u' "utc",
    also "utc" "uct", also "utc" "universal"]

/-- The moment that digits for a month, a day, a time and perhaps a year denote. -/
def ofClockWord? (word : String) : Option Int :=
  let digits := (word.takeWhile (· ≠ '.')).toString
  let year := (digits.drop 8).toString
  ofStamp? (year ++ (digits.take 8).toString ++ (word.drop digits.length).toString)

/-- Prints a date in a format. -/
def printDate (format : String) (seconds : Int) (nanosecond : Nat) : Effect Unit :=
  print ((Date.ofSeconds seconds nanosecond).inFormat format ++ "\n")

/-- What is said of a word that denotes no date. -/
def invalidDate (word : String) : Effect Nat := refuse s!"invalid date {Quoting.value word}"

/-- Prints the date that a text denotes. -/
def printDateOf (format : String) (text : String) : Effect Nat := do
  match Calendar.ofText? (.ofTime (← shared).host.clock) text with
  | some (seconds, nanosecond) =>
    printDate format seconds nanosecond
    return 0
  | none => invalidDate text

/-- Prints the dates that the lines of a file denote. -/
def printDatesIn (format path : String) : Effect Nat := do
  match ← readFile path with
  | .error (.opening reason) => refuse s!"{Quoting.ifNeeded path}: {reason}"
  | .error (.reading reason) => refuse s!"{Quoting.ifNeeded path}: read error: {reason}"
  | .ok text => return worst (← (linesOf text).mapM (printDateOf format))

/-- Prints the time of a file. -/
def printTimeOf (format path : String) : Effect Nat := do
  match ← find path with
  | .ok (place, _) =>
    let (seconds, nanosecond) := secondsAt ((← shared).host.folder.detailsOf place).time
    printDate format seconds nanosecond
    return 0
  | .error e => refuse s!"{Quoting.ifNeeded path}: {e.text}"

/-- Tells that the clock cannot be set, and prints the date to which it should be set. -/
def refuseClock (format : String) (seconds : Int) (nanosecond : Nat) : Effect Nat := do
  tell "cannot set date: Operation not permitted"
  printDate format seconds nanosecond
  return 1

/-- Prints a date as a call asks for it. `operands` are words that hold no format. -/
def printDateAs (call : Call) (format : String) (operands : List String) : Effect Nat := do
  let now := (← shared).host.clock
  match call.value? "date", call.value? "file", call.value? "reference", call.value? "set" with
  | some text, _, _, _ => printDateOf format text
  | none, some path, _, _ => printDatesIn format path
  | none, none, some path, _ => printTimeOf format path
  | none, none, none, some text =>
    match Calendar.ofText? (.ofTime now) text with
    | some (seconds, nanosecond) => refuseClock format seconds nanosecond
    | none => invalidDate text
  | none, none, none, none =>
    match operands with
    | word :: _ =>
      match ofClockWord? word with
      | some time => refuseClock format (secondsAt time).1 (secondsAt time).2
      | none => invalidDate word
    | [] =>
      let (seconds, nanosecond) := secondsAt now
      printDate format seconds nanosecond
      return 0

/-- Prints dates. -/
def date (words : List String) : Effect Nat :=
  called dateOptions words fun call => do
    match call.options.mapM formatOf with
    | .error text => misused text
    | .ok found =>
      let formats := found.filterMap id
      if formats.length > 1 then return ← refuse "multiple output formats specified"
      let sources := ["date", "file", "reference"].filter call.has
      if sources.length > 1 then
        return ← misused "the options to specify dates for printing are mutually exclusive"
      if sources ≠ [] ∧ call.has "set" then
        return ← misused "the options to print and set the time may not be used together"
      match call.operands with
      | _ :: extra :: _ => hasExtra extra
      | operands =>
        let isFormat (word : String) : Bool := word.startsWith "+"
        let others := operands.filter (!isFormat ·)
        let formats := formats ++ (operands.filter isFormat).map fun word => (word.drop 1).toString
        match others, formats with
        | _, _ :: _ :: _ => refuse "multiple output formats specified"
        | word :: _, _ =>
          if sources ≠ [] ∨ call.has "set" then
            misused (s!"the argument {Quoting.value word} lacks a leading '+';\n" ++
              "when using an option to specify date(s), any non-option\n" ++
              "argument must be a format string beginning with '+'")
          else printDateAs call (formats.headD usualFormat) others
        | [], _ => printDateAs call (formats.headD usualFormat) []

end Programs

end FileScript.Shell
