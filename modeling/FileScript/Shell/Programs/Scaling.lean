import FileScript.Shell.Decimal
import FileScript.Shell.Programs.Fields

/-!
# Numbers with units

Letters behind a number stand for powers of 1000 or of 1024. Numbers are written with other units than
they have, and rounded where that is needed.
-/

namespace FileScript.Shell

namespace Programs

open Effect

/-! ## Scales -/

/-- Which letters for units a number has. -/
inductive Scale where
  | none
  /-- Powers of 1000, or of 1024 if there is a further letter. -/
  | auto
  | thousands
  | binary
  /-- Powers of 1024 with a further letter. -/
  | marked
  deriving DecidableEq, Repr, Inhabited

/-- The scales by their names. -/
def scaleNames : List (String × Scale) :=
  [("none", .none), ("auto", .auto), ("si", .thousands), ("iec", .binary), ("iec-i", .marked)]

/-- What the next unit is worth. -/
def Scale.base : Scale → Nat
  | binary | marked => 1024
  | _ => 1000

/-- The letters for units. -/
def unitLetters : List Char := "KMGTPEZY".toList

/-- How a number is rounded. -/
inductive Rounding where
  | up
  | down
  | fromZero
  | towardsZero
  | nearest
  deriving DecidableEq, Repr, Inhabited

/-- The ways to round by their names. -/
def roundingNames : List (String × Rounding) :=
  [("up", .up), ("down", .down), ("from-zero", .fromZero), ("towards-zero", .towardsZero),
    ("nearest", .nearest)]

/-- The whole number that a number is rounded to. -/
def Rounding.apply (r : Rounding) (x : Rat) : Int :=
  let away : Int := if x < 0 then x.floor else x.ceil
  let inward : Int := if x < 0 then x.ceil else x.floor
  match r with
  | up => x.ceil
  | down => x.floor
  | fromZero => away
  | towardsZero => inward
  | nearest => if x < 0 then (x - 1 / 2).ceil else (x + 1 / 2).floor

/-- The number with 64 binary digits that is nearest to a number. -/
def held (x : Rat) : Binary := .ofFraction (x < 0) x.num.natAbs x.den .extended

/-- The nearest number that has no more than 64 binary digits. -/
def narrowed (x : Rat) : Rat :=
  let b := held x
  let (n, d) := b.fraction
  let size : Rat := mkRat n d
  if b.negative then -size else size

/-! ## Reading numbers -/

/-- How many digits of a number count. -/
def digitLimit : Nat := 27

/-- How many digits a number can have that is printed as it is. -/
def plainDigitLimit : Nat := 18

/-- Why a word is no number with a unit. -/
inductive ScalingFault where
  | tooLarge (word : String)
  | noNumber (word : String)
  | forbidden (word : String)
  | unknownUnit (word : String)
  | unmarked (word : String)
  | trailing (word rest : String)
  | unprintable (shown : String) (precision : Nat)
  | beyondUnits (shown : String)
  deriving DecidableEq, Repr, Inhabited

/-- What is said of a word that is no number with a unit. -/
def ScalingFault.text : ScalingFault → String
  | tooLarge word => s!"value too large to be converted: {Quoting.value word}"
  | noNumber word => s!"invalid number: {Quoting.value word}"
  | forbidden word =>
    s!"rejecting suffix in input: {Quoting.value word} (consider using --from)"
  | unknownUnit word => s!"invalid suffix in input: {Quoting.value word}"
  | unmarked word => "missing 'i' suffix in input: " ++ Quoting.value word ++ " (e.g Ki/Mi/Gi)"
  | trailing word rest => s!"invalid suffix in input {Quoting.value word}: {Quoting.value rest}"
  | unprintable shown precision =>
    if precision = 0 then
      "value too large to be printed: '" ++ shown ++ "' (consider using --to)"
    else
      "value/precision too large to be printed: '" ++ shown ++ s!"/{precision}' " ++
        "(consider using --to)"
  | beyondUnits shown =>
    "value too large to be printed: '" ++ shown ++ "' (cannot handle values > 999Y)"

/-- The digits of a number at the beginning of a text, as a number, their count, and what follows
them. -/
def digitsFor (word : String) (text : List Char) :
    Except ScalingFault (Rat × Nat × List Char) := do
  let digits := text.takeWhile Char.isDigit
  if (digits.dropWhile (· = '0')).length > digitLimit then throw (.tooLarge word)
  let number := (Integer.digits 10 digits).1
  return (narrowed (number : Rat), digits.length, text.drop digits.length)

/-- The number at the beginning of a word, with how many digits it has behind its point, and what
follows it. -/
def fractionOf (word : String) (text : List Char) :
    Except ScalingFault (Rat × Nat × List Char) := do
  let (negative, text) := match text with
    | '-' :: rest => (true, rest)
    | _ => (false, text)
  let (whole, count, rest) ← digitsFor word text
  if count = 0 ∧ rest.head? ≠ some '.' then throw (.noNumber word)
  let (size, places, rest) ← match rest with
    | '.' :: after => do
      let (part, places, rest) ← digitsFor word after
      if places = 0 ∧ rest.head? ≠ some '.' then throw (.noNumber word)
      let part := narrowed (part / (Nat.pow 10 places : Nat))
      pure (narrowed (whole + part), places, rest)
    | _ => pure (whole, 0, rest)
  return (if negative then -size else size, places, rest)

/-- The number with a unit that a word denotes, and how many digits it has behind its point. -/
def scaledNumber (scale : Scale) (word : String) : Except ScalingFault (Rat × Nat) := do
  let (number, places, rest) ← fractionOf word word.toList
  match rest.dropWhile fun c => c = ' ' || c = '\t' with
  | [] => return (number, places)
  | c :: rest =>
    let some power := unitLetters.idxOf? c | throw (.unknownUnit word)
    if scale = .none then throw (.forbidden word)
    let isMarked := rest.head? = some 'i'
    if scale = .marked ∧ !isMarked then throw (.unmarked word)
    let base := if scale = .auto ∧ isMarked then 1024 else scale.base
    let rest := if isMarked ∧ (scale = .auto ∨ scale = .marked) then rest.tail else rest
    if rest ≠ [] then throw (.trailing word (String.ofList rest))
    return (narrowed (number * (Nat.pow base (power + 1) : Nat)), 0)

/-! ## Writing numbers -/

/-- A layout for a number, with texts around it. -/
structure NumberLayout where
  lead : String := ""
  trail : String := ""
  /-- The width of a field with zeros before the number. -/
  zeros : Nat := 0
  /-- How wide the field is. It is filled on the right if the width is negative. -/
  width : Option Int := none
  places : Option Nat := none
  deriving DecidableEq, Repr, Inhabited

namespace NumberLayout

/-- The signs before the width, whether they ask for zeros, and what follows them. -/
def flags : Nat → (zeros : Bool) → List Char → Bool × List Char
  | 0, zeros, text => (zeros, text)
  | fuel + 1, zeros, text =>
    match text with
    | ' ' :: rest | '\'' :: rest => flags fuel zeros rest
    | '0' :: rest => flags fuel true rest
    | _ => (zeros, text)

/-- The layout that a word denotes, or what is wrong with it. -/
def ofText (word : String) : Except String NumberLayout := do
  let shown := Quoting.value word
  let rec split : Nat → List Char → List Char × List Char
    | 0, text => ([], text)
    | _, [] => ([], [])
    | fuel + 1, '%' :: '%' :: rest =>
      let (lead, rest) := split fuel rest
      ('%' :: lead, rest)
    | _, '%' :: rest => ([], '%' :: rest)
    | fuel + 1, c :: rest =>
      let (lead, rest) := split fuel rest
      (c :: lead, rest)
  let (lead, rest) := split (word.length + 1) word.toList
  if rest = [] then throw s!"format {shown} has no % directive"
  let (zeros, rest) := flags (word.length + 1) false rest.tail
  let (negative, digits) := match rest with
    | '-' :: more => if more.head?.any Char.isDigit then (true, more) else (false, rest)
    | _ => (false, rest)
  let (width, rest) := Integer.digits 10 digits
  if rest = [] then throw s!"format {shown} ends in %"
  let (places, rest) ← match rest with
    | '.' :: more => do
      if more.head?.any fun c => c ∈ [' ', '\t', '+', '-'] then
        throw s!"invalid precision in format {shown}"
      let (n, rest) := Integer.digits 10 more
      pure (some n, rest)
    | _ => pure (none, rest)
  match rest with
  | 'f' :: trail =>
    if (split (word.length + 1) trail).2 ≠ [] then
      throw s!"format {shown} has too many % directives"
    return {
      lead := String.ofList (word.toList.take lead.length), trail := String.ofList trail, places
      zeros := if zeros ∧ !negative then width else 0
      width := if width = 0 then none
        else if negative then some (-width)
        else if zeros then none
        else some width }
  | _ =>
    throw (s!"invalid format {shown}, directive must be %[0]" ++ "['][-][N][.][N]f")

end NumberLayout

/-- A number below a base, and how often the base has been taken from it. -/
def reduced (base : Nat) : Nat → (power : Nat) → Rat → Rat × Nat
  | 0, power, x => (x, power)
  | fuel + 1, power, x =>
    if x.abs < base then (x, power) else reduced base fuel (power + 1) (narrowed (x / base))

/-- A number with so many places, and with zeros before it. -/
def placed (x : Rat) (places zeros : Nat) : String :=
  let b := held x
  let digits := b.fixed places false
  let sign := if b.negative then "-" else ""
  sign ++ "".pushn '0' (zeros - sign.length - digits.length) ++ digits

/-- A number rounded to so many places. -/
def roundedTo (r : Rounding) (places : Nat) (x : Rat) : Rat :=
  let factor : Rat := (Nat.pow 10 places : Nat)
  narrowed ((r.apply (narrowed (x * factor)) : Rat) / factor)

/-- A number with the letter for a unit. -/
def withUnit (scale : Scale) (r : Rounding) (f : NumberLayout) (x : Rat) : String :=
  let (x, power) := reduced scale.base 40 0 x
  let places := match f.places with
    | some n => min (power * 3) n
    | none => if x.abs < 10 then 1 else 0
  let x := roundedTo r places x
  let (x, power) :=
    if x.abs ≥ scale.base then (narrowed (x / scale.base), power + 1) else (x, power)
  let shown := f.places.getD (if x ≠ 0 ∧ x.abs < 10 ∧ power > 0 then 1 else 0)
  let unit := if power = 0 then "" else ((unitLetters[power - 1]?).map Char.toString).getD "(error)"
  placed x shown f.zeros ++ unit ++ if scale = .marked ∧ power > 0 then "i" else ""

/-! ## Conversion -/

/-- How numbers are converted. -/
structure Conversion where
  source : Scale := .none
  target : Scale := .none
  sourceUnit : Nat := 1
  targetUnit : Nat := 1
  rounding : Rounding := .fromZero
  format : NumberLayout := {}
  /-- How wide fields are. -/
  width : Option Int := none
  suffix : Option String := none
  fields : List PositionRange := [{ first := 1, last := some 1 }]
  /-- The character between fields. Blanks separate them if there is none. -/
  delimiter : Option Char := none
  invalid : String := "abort"
  deriving Repr, Inhabited

namespace Conversion

/-- A number in the form that is asked for. -/
def shown (c : Conversion) (number : Rat) (places : Nat) : Except ScalingFault String := do
  let places := c.format.places.getD places
  let (_, size) := reduced 10 5000 0 number
  let b := held number
  let general := (if b.negative then "-" else "") ++ b.general 6 false
  if c.target = .none ∧ size + places > plainDigitLimit then throw (.unprintable general places)
  if size > digitLimit - 1 then throw (.beyondUnits general)
  if c.target = .none then
    return placed (roundedTo c.rounding places number) places c.format.zeros
  return withUnit c.target c.rounding c.format number

/-- A field with its number converted. `isLater` says that it is not the first field. -/
def field (c : Conversion) (isLater : Bool) (text : String) : Except ScalingFault String := do
  let suffix := c.suffix.getD ""
  let isCut := suffix ≠ "" && text.length > suffix.length && text.endsWith suffix
  let text := if isCut then (text.dropEnd suffix.length).toString else text
  let bare := text.toList.dropWhile fun c => c = ' ' || c = '\t'
  let isIndented := bare.length < text.length || isLater
  let width : Int := match c.width, c.delimiter with
    | some width, _ => width
    | none, none => if isIndented then text.length else 0
    | none, some _ => 0
  let (number, places) ← scaledNumber c.source (String.ofList bare)
  let number :=
    if c.sourceUnit = 1 ∧ c.targetUnit = 1 then number
    else narrowed (narrowed (number * (c.sourceUnit : Rat)) / (c.targetUnit : Rat))
  let shown := (← c.shown number places) ++ suffix
  let missing := width.natAbs - shown.length
  let shown := if width < 0 then shown.pushn ' ' missing else "".pushn ' ' missing ++ shown
  return c.format.lead ++ shown ++ c.format.trail

/-- The fields of a line. Blanks before a field belong to it. -/
def split (c : Conversion) (line : String) : List String :=
  match c.delimiter with
  | some d => line.splitOn d.toString
  | none =>
    let isGap (c : Char) : Bool := c = ' ' || c = '\t' || c = '\n'
    let rec go : Nat → List Char → List String
      | 0, text => [String.ofList text]
      | fuel + 1, text =>
        let lead := text.takeWhile isGap
        let word := (text.drop lead.length).takeWhile fun c => !isGap c
        let own := String.ofList (lead ++ word)
        match text.drop (lead.length + word.length) with
        | [] => [own]
        | _ :: rest => own :: go fuel rest
    go (line.length + 1) line.toList

/-- Prints a line with its numbers converted; tells whether all of them are numbers. It ends the
program at a field without a number, if that is asked for. -/
def line (c : Conversion) (text : String) : Effect (Bool × Bool) := do
  let separator := (c.delimiter.getD ' ').toString
  let rec go : Nat → List String → Effect (Bool × Bool)
    | _, [] => return (true, false)
    | i, text :: rest => do
      unless i = 0 do print separator
      let (valid, stops) ←
        if !c.fields.any (·.covers (i + 1)) then do
          print text
          pure (true, false)
        else match c.field (i > 0) text with
          | .ok shown => do
            print shown
            pure (true, false)
          | .error fault => do
            unless c.invalid = "ignore" do tell fault.text
            unless c.invalid = "abort" do print text
            pure (false, decide (c.invalid = "abort"))
      if stops then return (false, true)
      let (others, stops) ← go (i + 1) rest
      return (valid && others, stops)
  go 0 (c.split text)

/-- Prints lines with their numbers converted; tells whether all of them are numbers, and whether the
program ends. -/
def lines (c : Conversion) : List (String × String) → Effect (Bool × Bool)
  | [] => return (true, false)
  | (text, ending) :: rest => do
    let (valid, stops) ← c.line text
    if stops then return (false, true)
    print ending
    let (others, stops) ← lines c rest
    return (valid && others, stops)

end Conversion

/-- The size of a unit that a word denotes. -/
def unitSize? (word : String) : Option Nat :=
  let (n, rest) := Integer.digits 10 word.toList
  let size := if rest.length = word.length then (1, word.toList) else (n, rest)
  let unit : Option Nat := match size.2 with
    | [] => some 1
    | c :: rest =>
      (unitLetters.idxOf? c).bind fun power =>
        match rest with
        | [] => some (Nat.pow 1000 (power + 1))
        | ['i'] => some (Nat.pow 1024 (power + 1))
        | _ => none
  (unit.map (· * size.1)).filter fun n => 0 < n && n < UInt64.size

/-- The value that the last word of an option denotes, among values with names. -/
def namedValue {α : Type} (call : Call) (key : String) (values : List (String × α)) (usual : α) :
    Except String α := do
  match call.value? key with
  | none => return usual
  | some word =>
    let name ← chosen (values.map (·.1)) ("--" ++ key) word
    return (values.lookup name).getD usual

/-- The options of `numfmt`. -/
def numfmtOptions : List Known :=
  [valued 'd' "delimiter", long "field" .value, long "format" .value, long "from" .value,
    long "from-unit" .value, long "grouping", long "header" .ownValue, long "invalid" .value,
    long "padding" .value, long "round" .value, long "suffix" .value, long "to" .value,
    long "to-unit" .value, flag 'z' "zero-terminated", long "debug"]

/-- The conversion that a call asks for; or what is wrong with it, and whether the usage is told
then. -/
def conversionOf (call : Call) : Except (String × Bool) Conversion := do
  let usage {α : Type} (found : Except String α) : Except (String × Bool) α :=
    found.mapError (·, true)
  let source ← usage (namedValue call "from" scaleNames .none)
  let targets := scaleNames.filter (·.1 ≠ "auto")
  let target ← usage (namedValue call "to" targets .none)
  let rounding ← usage (namedValue call "round" roundingNames .fromZero)
  let kinds := ["abort", "fail", "warn", "ignore"].map fun name => (name, name)
  let invalid ← usage (namedValue call "invalid" kinds "abort")
  let unit (key : String) : Except (String × Bool) Nat :=
    match call.value? key with
    | none => .ok 1
    | some word =>
      match unitSize? word with
      | some n => .ok n
      | none => .error (s!"invalid unit size: {Quoting.value word}", false)
  let sourceUnit ← unit "from-unit"
  let targetUnit ← unit "to-unit"
  let padding ← match call.value? "padding" with
    | none => pure none
    | some word =>
      match Integer.ofText? word with
      | some n =>
        if n = 0 then throw (s!"invalid padding value {Quoting.value word}", false)
        pure (some n)
      | none => throw (s!"invalid padding value {Quoting.value word}", false)
  let delimiter ← match (call.value? "delimiter").map String.toList with
    | none => pure none
    | some [] => pure (some '\x00')
    | some [c] => pure (some c)
    | some _ => throw ("the delimiter must be a single character", false)
  let fields ← match call.value? "field" with
    | none => pure [{ first := 1, last := some 1 }]
    | some "-" => pure [{ first := 1, last := none }]
    | some word => usage (RangeReader.ranges true {} word.toList)
  let format ← match call.value? "format" with
    | none => pure {}
    | some word => (NumberLayout.ofText word).mapError (·, false)
  if call.has "grouping" ∧ call.has "format" then
    throw ("--grouping cannot be combined with --format", false)
  if call.has "grouping" ∧ target ≠ .none then
    throw ("grouping cannot be combined with --to", false)
  return {
    source, target, rounding, invalid, sourceUnit, targetUnit, delimiter, fields, format
    width := format.width.or padding, suffix := call.value? "suffix" }

/-- Prints numbers with other units. -/
def numfmt (words : List String) : Effect Nat :=
  called numfmtOptions words fun call => do
    match conversionOf call with
    | .error (text, true) => misused text
    | .error (text, false) => refuse text
    | .ok c =>
      let count (word : String) : Except String Nat :=
        match Integer.ofText? word with
        | some n => if n > 0 then .ok n.toNat else .error word
        | none => .error word
      match (call.value? "header").map fun word => if word = "" then .ok 1 else count word with
      | some (.error word) => refuse s!"invalid header value {Quoting.value word}"
      | header =>
        let ending := if call.has "zero-terminated" then "\x00" else "\n"
        let (valid, stops) ←
          if call.operands ≠ [] then c.lines (call.operands.map (·, ending))
          else do
            let text := (← readAll 0).toOption.getD ""
            let parts := text.splitOn ending
            let last := parts.getLastD ""
            let whole := parts.dropLast.map (·, ending)
            let all := if last = "" then whole else whole ++ [(last, "")]
            let titles := match header with
              | some (.ok n) => all.take n
              | _ => []
            titles.forM fun (text, ending) => print (text ++ ending)
            c.lines (all.drop titles.length)
        return if stops ∨ !valid ∧ c.invalid ∉ ["warn", "ignore"] then 2 else 0

end Programs

end FileScript.Shell
