import FileScript.Shell.Format
import FileScript.Shell.Programs.Basic

/-!
# Sequences of numbers

The numbers from one to another, with equal steps between them. They are calculated exactly, and are
written with as many digits after the point as the words for the first one and for the step have.
-/

namespace FileScript.Shell

namespace Programs

open Effect

/-- A number in a word, and how it is written. -/
structure Numeral where
  /-- The number as a fraction; there is none if it is infinite. -/
  value : Option (Int × Nat)
  negative : Bool := false
  /-- The number of characters without an exponent. -/
  width : Int := 0
  /-- The number of digits after the point, if the number is written with decimal digits. -/
  precision : Option Nat := none
  deriving Repr, Inhabited

namespace Numeral

/-- What follows the sign of a number, and whether that is a minus. -/
def signed (text : List Char) : Bool × List Char :=
  match text with
  | '-' :: rest => (true, rest)
  | '+' :: rest => (false, rest)
  | _ => (false, text)

/-- The size of a number with decimal digits, and how it is written. The sign counts for its
width. -/
def ofDigits (negative : Bool) (length : Nat) (text : List Char) : Option Numeral := do
  let (n, places, rest) ← Binary.digits? 10 text
  let (power, rest) := Binary.exponentOf ['e', 'E'] rest
  guard (rest = [])
  let (numerator, denominator) := Binary.scaled n 10 (power - places)
  let numerator : Int := if negative then -numerator else numerator
  let hasPoint := text.contains '.'
  let before := text.takeWhile (· ≠ '.')
  let expText := text.dropWhile fun c => c ≠ 'e' && c ≠ 'E'
  let width : Int := length
  let width := if !hasPoint then width
    else if places = 0 then width - 1
    else if before = [] then width + 1 else width
  let precision : Int := places + if power < 0 then -power else -(min (places : Int) power)
  let width := if expText = [] then width else
    let undo : Int := if power < 0 ∧ (!hasPoint ∨ places = 0) then 1 else 0
    width - expText.length + undo + power.natAbs
  some
    { value := some (numerator, denominator), negative, width, precision := some precision.toNat }

/-- The number in a word. -/
def ofWord? (word : String) : Option Numeral :=
  let text := word.toList.dropWhile fun c => isBlank c || c = '+'
  match Binary.scan? word.toList with
  | some (b, []) =>
    let (negative, digits) := signed text
    if b.undefined ∨ b.infinite then some { value := none, negative := b.negative }
    else match ofDigits negative text.length digits with
      | some found => some found
      | none =>
        let (n, d) := b.fraction
        some { value := some (if b.negative then -(n : Int) else n, d), negative }
  | _ => none

end Numeral

/-- A way to write the numbers of a sequence: what stands before and behind them, and a directive.
-/
structure NumberFormat where
  before : String := ""
  directive : Format.Directive
  letter : Char
  after : String := ""

namespace NumberFormat

/-- Writes a number. -/
def write (f : NumberFormat) (numerator : Int) (denominator : Nat) : String :=
  let b := Binary.ofFraction (numerator < 0) numerator.natAbs denominator
  f.before ++ f.directive.fraction f.letter b ++ f.after

/-- The text before a single percent sign, where two of them stand for one, and what follows it. -/
def plainPart : List Char → List Char × List Char
  | '%' :: '%' :: rest =>
    let (text, after) := plainPart rest
    ('%' :: text, after)
  | '%' :: rest => ([], '%' :: rest)
  | c :: rest =>
    let (text, after) := plainPart rest
    (c :: text, after)
  | [] => ([], [])

/-- The format in a word, or what is wrong with it. -/
def ofWord (word : String) : Except String NumberFormat :=
  let shown := Quoting.value word
  match plainPart word.toList with
  | (_, []) => .error s!"format {shown} has no % directive"
  | (before, _ :: rest) =>
    let (directive, rest) := Format.Directive.ofText rest
    let rest := if rest.head? = some 'L' then rest.tail else rest
    match rest with
    | [] => .error s!"format {shown} ends in %"
    | letter :: rest =>
      if letter ∉ "efgaEFGA".toList then
        .error s!"format {shown} has unknown %{letter} directive"
      else match plainPart rest with
        | (after, []) =>
          .ok { before := String.ofList before, directive, letter, after := String.ofList after }
        | _ => .error s!"format {shown} has too many % directives"

/-- The format for numbers that are written with so many digits after the point. -/
def fixed (precision width : Nat) (zeros : Bool) : NumberFormat :=
  { directive := { zeros, width, precision := some precision }, letter := 'f' }

/-- The usual format for a sequence. All numbers can be given the same width. -/
def usual (first step last : Numeral) (equalWidth : Bool) : NumberFormat :=
  match first.precision, step.precision with
  | some p, some q =>
    let precision := max p q
    match last.precision with
    | none => if last.value.isNone then fixed precision 0 false
        else { directive := {}, letter := 'g' }
    | some lastPrecision =>
      let point (own : Nat) : Int :=
        if own = 0 ∧ precision ≠ 0 then 1 else if own ≠ 0 ∧ precision = 0 then -1 else 0
      let firstPoint : Int := if p = 0 ∧ precision ≠ 0 then 1 else 0
      let firstWidth := first.width + (precision - p : Nat) + firstPoint
      let lastWidth := last.width + ((precision : Int) - lastPrecision) + point lastPrecision
      if equalWidth then fixed precision (max firstWidth lastWidth).toNat true
      else fixed precision 0 false
  | _, _ => { directive := {}, letter := 'g' }

end NumberFormat

/-- How many numbers are printed of a sequence without end. -/
def endlessCount : Nat := 20000

/-- The numbers of a sequence as numerators of a denominator, which comes first. -/
def sequenceOf (first step last : Numeral) : Nat × List Int :=
  match first.value, step.value with
  | some (a, da), some (s, ds) =>
    let common := da * ds
    let start := a * ds
    let increment := s * da
    let items (count : Nat) : List Int :=
      (List.range count).map fun (i : Nat) => start + increment * (i : Int)
    match last.value with
    | none => (common, if last.negative = (increment < 0 : Bool) then items endlessCount else [])
    | some (l, dl) =>
      let reach := if increment < 0 then start * dl - l * common else l * common - start * dl
      let size := increment.natAbs * dl
      (common, if reach < 0 ∨ size = 0 then [] else items (reach.toNat / size + 1))
  | _, _ => (1, [])

/-- Words in which a negative number ends the options. -/
def withoutNumbers : List String → List String
  | [] => []
  | word :: rest =>
    match word.toList with
    | '-' :: c :: more =>
      if c = '.' || c.isDigit then "--" :: word :: rest
      else if (c = 's' || c = 'f') && more = [] then
        match rest with
        | value :: others => word :: value :: withoutNumbers others
        | [] => [word]
      else if c = '-' && more = [] then word :: rest
      else word :: withoutNumbers rest
    | _ => word :: rest

/-- Prints the numbers from one to another. -/
def seq (words : List String) : Effect Nat :=
  let act (call : Call) : Effect Nat := do
    if call.operands = [] then return ← lacksOperand
    if let some word := call.operands[3]? then return ← hasExtra word
    let format := (call.value? "format").map NumberFormat.ofWord
    if let some (.error text) := format then return ← refuse text
    if format.isSome && call.has "equal-width" then
      return ← misused "format string may not be specified when printing equal width strings"
    let isUndefined (word : String) : Bool :=
      (Binary.scan? word.toList).any fun (b, rest) => b.undefined && rest = []
    if let some word := call.operands.find? fun w =>
        (Numeral.ofWord? w).isNone || isUndefined w then
      let shown := Quoting.value word
      return ← misused (if isUndefined word then
          "invalid " ++ Quoting.value "not-a-number" ++ " argument: " ++ shown
        else s!"invalid floating point argument: {shown}")
    let one : Numeral := { value := some (1, 1), width := 1, precision := some 0 }
    let (first, step, last) := match call.operands.filterMap Numeral.ofWord? with
      | [last] => (one, one, last)
      | [first, last] => (first, one, last)
      | first :: step :: last :: _ => (first, step, last)
      | [] => (one, one, one)
    if step.value.any (·.1 = 0) then
      let word := Quoting.value (call.operands[1]?.getD "")
      return ← misused s!"invalid Zero increment value: {word}"
    let (denominator, items) := sequenceOf first step last
    let format := (format.bind Except.toOption).getD
      (.usual first step last (call.has "equal-width"))
    let separator := (call.value? "separator").getD "\n"
    if items ≠ [] then
      print (separator.intercalate (items.map fun n => format.write n denominator) ++ "\n")
    return 0
  called [valued 'f' "format", valued 's' "separator", flag 'w' "equal-width"]
    (withoutNumbers words) act 1 true

end Programs

end FileScript.Shell
