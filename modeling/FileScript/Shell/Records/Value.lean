import FileScript.Shell.Format
import FileScript.Shell.Records.Syntax

/-!
# Values in programs for records

A value is a number or a text, and each can stand for the other. A text from outside that looks like
a number also counts as one.
-/

namespace FileScript.Shell

namespace Records

/-! ## Numbers -/

/-- The nearest floating-point number. -/
def floatOf (b : Binary) : Float :=
  let size : Float :=
    if b.undefined then 0.0 / 0.0
    else if b.infinite then 1.0 / 0.0
    else (Float.ofNat b.mantissa).scaleB b.exponent
  if b.negative then -size else size

/-- A floating-point number as a mantissa and a power of two. -/
def binaryOf (x : Float) : Binary :=
  let bits := x.toBits.toNat
  let negative := 1 <<< 63 ≤ bits
  let exponent := (bits >>> 52) % 2048
  let mantissa := bits % (1 <<< 52)
  if x.isNaN then { negative := true, undefined := true }
  else if exponent = 2047 then { negative, infinite := true }
  else if exponent = 0 then { negative, mantissa, exponent := -1074 }
  else { negative, mantissa := mantissa + 1 <<< 52, exponent := (exponent : Int) - 1075 }

/-- The integer that is left of a number without its fraction. There is none of a number that is too
large to be one, and none of no number. -/
def integerOf? (x : Float) : Option Int :=
  let b := binaryOf x
  if b.undefined ∨ b.infinite then none
  else
    let (n, d) := b.fraction
    let size : Int := n / d
    some (if b.negative then -size else size)

/-- An integer of 64 bits near a number: what is too large counts as the greatest. -/
def signedOf (x : Float) : Int :=
  if x.isNaN then Integer.least
  else match integerOf? x with
    | some n => if n < Integer.least then -Integer.greatest else min n (UInt64.size - 1)
    | none => if x < 0 then -Integer.greatest else UInt64.size - 1

/-- The number at the beginning of a text, which is zero if there is none. -/
def leadingNumber (text : String) : Float :=
  ((Binary.scan? text.toList).map fun (b, _) => floatOf b).getD 0

/-- Whether a character is a space around a number. -/
def isGap (c : Char) : Bool := c = ' ' || c = '\t' || c = '\n'

/-- The number that a text is, if it is one. It begins with a sign, a point or a digit and ends with
a digit or a point. -/
def wholeNumber? (text : String) : Option Float :=
  let chars := text.toList.dropWhile isGap
  let chars := (chars.reverse.dropWhile isGap).reverse
  let begins := chars.head?.any fun c => c.isDigit || c ∈ ['+', '-', '.']
  let ends := chars.getLast?.any fun c => c.isDigit || c = '.'
  if !(begins && ends) then none
  else match Binary.scan? chars with
    | some (b, []) => some (floatOf b)
    | _ => none

/-- A number as a directive of a format writes it. -/
def formatted (format : String) (x : Float) : String :=
  let chars := format.toList
  let lead := chars.takeWhile (· ≠ '%')
  match chars.drop lead.length with
  | [] => format
  | _ :: rest =>
    let (d, after) := Format.Directive.ofText rest
    match after with
    | [] => format
    | letter :: after =>
      let text := if letter ∈ ['d', 'i'] then d.signed (signedOf x) else
        d.fraction letter (binaryOf x)
      String.ofList lead ++ text ++ String.ofList after

/-- The greatest integer that is written with all its digits. -/
def greatestWhole : Int := 2147483647

/-- The integer that a number is, if it is one that is written with all its digits. -/
def wholeOf? (x : Float) : Option Int :=
  match integerOf? x with
  | some n => if x.floor == x ∧ -greatestWhole ≤ n ∧ n ≤ greatestWhole then some n else none
  | none => none

/-- A number as a text. Integers are written with all their digits unless they are large, other
numbers as a format asks for it. -/
def numberText (format : String) (x : Float) : String :=
  match wholeOf? x with
  | some n => toString n
  | none => formatted format x

/-- The remainder of a division, which has the sign of the first number. -/
def remainder (x y : Float) : Float :=
  let a := binaryOf x
  let b := binaryOf y
  if a.undefined ∨ b.undefined ∨ a.infinite ∨ b.mantissa = 0 ∧ ¬b.infinite then 0.0 / 0.0
  else if b.infinite then x
  else
    let (n, d) := a.fraction
    let (m, e) := b.fraction
    floatOf (.ofFraction a.negative ((n * e) % (m * d)) (d * e))

/-- What an operation makes of two numbers. -/
def Operation.apply (o : Operation) (x y : Float) : Float :=
  match o with
  | add => x + y
  | subtract => x - y
  | multiply => x * y
  | divide => x / y
  | remainder => Records.remainder x y
  | power => x.pow y

/-! ## Values -/

/-- A value. -/
inductive Value where
  /-- What a variable has that has not been given a value. -/
  | nothing
  | number (x : Float)
  | text (s : String)
  /-- A text from outside. -/
  | outer (s : String)
  deriving Repr, Inhabited

namespace Value

/-- A value as a number. -/
def toNumber : Value → Float
  | nothing => 0
  | number x => x
  | text s | outer s => leadingNumber s

/-- A value as a text. The format is for numbers. -/
def toText (format : String) : Value → String
  | nothing => ""
  | number x => numberText format x
  | text s | outer s => s

/-- The number as which a value is compared, if it is not a text. -/
def comparable? : Value → Option Float
  | nothing => some 0
  | number x => some x
  | text _ => none
  | outer s => wholeNumber? s

/-- Whether a value counts as true. -/
def isTrue : Value → Bool
  | nothing => false
  | number x => x != 0
  | text s => s ≠ ""
  | outer s =>
    match wholeNumber? s with
    | some x => x != 0
    | none => s ≠ ""

/-- The order of two numbers. What is no number equals all others. -/
def orderOf (x y : Float) : Ordering := if x < y then .lt else if y < x then .gt else .eq

/-- The order of two values: as numbers if both can be compared as such, and else as texts. -/
def order (format : String) (a b : Value) : Ordering :=
  match a.comparable?, b.comparable? with
  | some x, some y => orderOf x y
  | _, _ => compare (a.toText format) (b.toText format)

/-- The value for a truth. -/
def ofBool (b : Bool) : Value := number (if b then 1 else 0)

/-- The value for a natural number. -/
def ofNat (n : Nat) : Value := number (Float.ofNat n)

/-- The value for an integer. -/
def ofInt (n : Int) : Value := number (Float.ofInt n)

end Value

/-! ## Formatted output -/

/-- What is wrong with a format. -/
inductive FormatMistake where
  | missing
  | improper (number : Nat)
  deriving DecidableEq, Repr, Inhabited

/-- What is said about a mistake in a format. `name` is the function that uses it. -/
def FormatMistake.text (name format : String) : FormatMistake → String
  | missing => "not enough arguments passed to " ++ name ++ "(\"" ++ format ++ "\")"
  | improper n => s!"improper conversion(number {n}) in {name}(\"" ++ format ++ "\")"

/-- The text of a format on its way: what has been written, and how many directives there were. -/
structure Formatting where
  output : String := ""
  values : List Value
  count : Nat := 0

/-- Steps of writing a format. -/
abbrev FormatStep := EStateM FormatMistake Formatting

/-- Takes the next value. -/
def nextValue : FormatStep Value := do
  let f ← get
  match f.values with
  | [] => throw .missing
  | v :: values =>
    set { f with values }
    return v

/-- A width or a precision: a number that is written, or one that is the next value. -/
def formatSize (text : List Char) : FormatStep (Option Int × List Char) := do
  match text with
  | '*' :: rest => return (some (signedOf (← nextValue).toNumber), rest)
  | _ =>
    let digits := text.takeWhile Char.isDigit
    if digits = [] then return (none, text)
    return (some (Integer.digits 10 digits).1, text.drop digits.length)

/-- Writes a directive, after its percent sign, and yields what follows it. `numbers` is the format
by which numbers become texts. -/
def formatDirective (numbers : String) (text : List Char) : FormatStep (List Char) := do
  modify fun f => { f with count := f.count + 1 }
  let flags := text.takeWhile (· ∈ ['#', '-', '+', ' ', '0'])
  let (width, afterWidth) ← formatSize (text.drop flags.length)
  let (precision, afterPrecision) ← match afterWidth with
    | '.' :: more => do
      let (n, rest) ← formatSize more
      pure (some (n.getD 0), rest)
    | _ => pure (none, afterWidth)
  let width := width.getD 0
  let d : Format.Directive := {
    leftAligned := '-' ∈ flags || width < 0, plus := '+' ∈ flags, space := ' ' ∈ flags
    alternative := '#' ∈ flags, zeros := '0' ∈ flags, width := width.natAbs
    precision := (precision.filter (0 ≤ ·)).map Int.toNat }
  let sizes := afterPrecision.takeWhile fun c => c = 'l' || c = 'h'
  let value ← nextValue
  let count := (← get).count
  let put (s : String) : FormatStep Unit := modify fun f => { f with output := f.output ++ s }
  match afterPrecision.drop sizes.length with
  | [] => throw (.improper count)
  | letter :: rest =>
    let plain := sizes = []
    match letter with
    | 'c' =>
      if !plain then throw (.improper count)
      let code (x : Float) : String := (Char.ofNat ((signedOf x) % 256).toNat).toString
      let first (s : String) : String := (s.toList.headD '\x00').toString
      put (d.align (match value with
        | .nothing => "\x00"
        | .number x => code x
        | .text s => first s
        | .outer s => ((wholeNumber? s).map code).getD (first s)))
    | 's' =>
      if !plain then throw (.improper count)
      let s := value.toText numbers
      put (d.align (match d.precision with
        | some n => String.ofList (s.toList.take n)
        | none => s))
    | 'd' | 'i' => put (d.signed (signedOf value.toNumber))
    | 'o' | 'u' | 'x' | 'X' =>
      put (d.unsigned letter (signedOf value.toNumber % UInt64.size).toNat)
    | 'e' | 'E' | 'f' | 'g' | 'G' =>
      if !plain then throw (.improper count)
      put (d.fraction letter (binaryOf value.toNumber))
    | _ => throw (.improper count)
    return rest

/-- Writes a format. -/
def formatParts (numbers : String) : Nat → List Char → FormatStep Unit
  | 0, _ | _, [] => return
  | fuel + 1, '%' :: '%' :: rest => do
    modify fun f => { f with output := f.output.push '%' }
    formatParts numbers fuel rest
  | fuel + 1, '%' :: rest => do
    let rest ← formatDirective numbers rest
    formatParts numbers fuel rest
  | fuel + 1, c :: rest => do
    modify fun f => { f with output := f.output.push c }
    formatParts numbers fuel rest

/-- What a format makes of values; with a mistake, what comes before it. -/
def format (numbers text : String) (values : List Value) : String × Option FormatMistake :=
  match (formatParts numbers (text.length + 1) text.toList).run { values } with
  | .ok _ f => (f.output, none)
  | .error mistake f => (f.output, some mistake)

end Records

end FileScript.Shell
