import FileScript.Shell.Programs.Size

/-!
# Beginnings and ends of texts

Programs that print so many lines or bytes at the beginning or at the end of each text. The number
can also say what is left out.
-/

namespace FileScript.Shell

namespace Programs

open Effect

/-- A part of a text: how many lines or bytes, and whether the number is counted in another way. -/
structure Extent where
  count : Nat := 10
  bytes : Bool := false
  /-- Whether the number is written with the sign that lets it say what is left out. -/
  marked : Bool := false
  /-- The character at the end of a line. -/
  ending : Char := '\n'
  deriving DecidableEq, Repr, Inhabited

namespace Extent

/-- The parts of a text that end with a character, with their ends. -/
def wholeParts (ending : Char) (text : String) : List String :=
  let parts := text.splitOn ending.toString
  parts.dropLast.map (·.push ending) ++ if parts.getLastD "" = "" then [] else [parts.getLastD ""]

/-- The lines or the bytes of a text. -/
def units (e : Extent) (text : String) : List String :=
  if e.bytes then text.toList.map Char.toString else wholeParts e.ending text

/-- The part at the beginning. A marked number says how much is left out at the end. -/
def first (e : Extent) (text : String) : String :=
  let units := e.units text
  String.join (units.take (if e.marked then units.length - e.count else e.count))

/-- The part at the end. A marked number says where it begins. -/
def last (e : Extent) (text : String) : String :=
  let units := e.units text
  String.join (units.drop (if e.marked then e.count - 1 else units.length - e.count))

/-- What is counted. -/
def what (bytes : Bool) : String := "invalid number of " ++ if bytes then "bytes" else "lines"

/-- The part that an option asks for. A sign before the number may mark it, or have no meaning. -/
def ofOption (mark : Char) (bytes : Bool) (word : String) : Except String Extent := do
  let number := if word.startsWith "-" then (word.drop 1).toString else word
  let marked := word.toList.head? = some mark
  let count ← Programs.countOf (what bytes) usualUnits number
  return { count, bytes, marked }

/-- The part that the options of a call ask for. -/
def ofCall (mark : Char) (call : Call) : Except String Extent := do
  let extents ← call.options.filterMapM fun (key, value) => do
    if key = "lines" ∨ key = "bytes" then return some (← ofOption mark (key = "bytes") value)
    else return none
  let e := extents.getLastD {}
  return { e with ending := if call.has "zero-terminated" then '\x00' else '\n' }

end Extent

/-- The options of programs that print parts of texts. -/
def extentOptions : List Known :=
  [valued 'n' "lines", valued 'c' "bytes", flag 'q' "quiet", also "quiet" "silent",
    flag 'v' "verbose", flag 'z' "zero-terminated"]

/-- The digits, which are no options of their own. -/
def digitOptions : List Known := flags "0123456789"

/-- The digit among the options of a call, if there is one. -/
def digitOption? (call : Call) : Option String := call.last? (digitOptions.map (·.key))

/-- The title of a part, which is set off from the part before. -/
def titleOf (isFirst : Bool) (path : String) : String :=
  let name := if path = "-" then "standard input" else path
  (if isFirst then "" else "\n") ++ s!"==> {name} <==\n"

/-- Whether parts have titles. -/
def areTitled (call : Call) : Bool :=
  match call.last? ["quiet", "verbose"] with
  | some key => key = "verbose"
  | none => call.operands.length > 1

/-- Shows a part of each file. `act` shows one of them, and tells whether it printed a title and the
status. -/
def showParts (titled : Bool) (act : (title path : String) → Effect (Bool × Nat)) :
    (isFirst : Bool) → List String → Effect Nat
  | _, [] => return 0
  | isFirst, path :: rest => do
    let (printed, status) ← act (if titled then titleOf isFirst path else "") path
    return max status (← showParts titled act (isFirst && !printed) rest)

/-- How much is read for the part at the beginning. Lines are looked for in blocks; what follows the
part is given back if that can be done. -/
def takingFirst (e : Extent) : Taking := fun text seekable =>
  let size := (e.first text).length
  if e.marked then text.length
  else if e.bytes ∨ seekable then size
  else min text.length ((size + 8191) / 8192 * 8192)

/-! ## Beginnings -/

/-- The options in a word that gives a number of lines by itself: the number and letters behind it;
or the letter that cannot stand there. -/
def numberOptions (digits : List Char) : List Char → (unit : Option Char) → (bytes : Bool) →
    List String → Except Char (List String)
  | [], unit, bytes, others =>
    let number := String.ofList (digits ++ unit.toList)
    .ok ((if bytes then "-c" else "-n") :: number :: others)
  | c :: rest, unit, bytes, others =>
    match c with
    | 'c' => numberOptions digits rest none true others
    | 'b' | 'k' | 'm' => numberOptions digits rest (some c) true others
    | 'l' => numberOptions digits rest unit false others
    | 'q' => numberOptions digits rest unit bytes ["-q"]
    | 'v' => numberOptions digits rest unit bytes ["-v"]
    | 'z' => numberOptions digits rest unit bytes (others ++ ["-z"])
    | _ => .error c

/-- A number of lines can be written as an option of its own, which must come first. -/
def withNumber (words : List String) : Except Char (List String) :=
  match words.map String.toList with
  | ('-' :: c :: rest) :: _ =>
    if c.isDigit then do
      let digits := (c :: rest).takeWhile Char.isDigit
      let found ← numberOptions digits ((c :: rest).drop digits.length) none false []
      return found ++ words.tail
    else .ok words
  | _ => .ok words

/-- Shows the beginning of a text. -/
def showFirst (e : Extent) (title path : String) : Effect (Bool × Nat) := do
  match ← readFile path (takingFirst e) with
  | .ok text =>
    print (title ++ e.first text)
    return (true, 0)
  | .error (.opening reason) =>
    return (false, ← refuse s!"cannot open {Quoting.always path} for reading: {reason}")
  | .error (.reading reason) =>
    print title
    return (true, ← refuse s!"error reading {described path}: {reason}")

/-- Prints the beginnings of texts. -/
def head (words : List String) : Effect Nat := do
  match withNumber words with
  | .error c => misused ("invalid trailing option -- " ++ c.toString)
  | .ok words =>
    called (extentOptions ++ long "presume-input-pipe" :: digitOptions) words fun call => do
      if let some digit := digitOption? call then
        return ← misused s!"invalid trailing option -- {digit}"
      match Extent.ofCall '-' call with
      | .error text => refuse text
      | .ok e =>
        let status ← showParts (areTitled call) (showFirst e) true call.inputs
        checkInput "-: Bad file descriptor" call.inputs
        return status

/-! ## Ends -/

/-- A number of lines, or of bytes, that is written as an option of its own can stand before at most
one file: the number with its sign, the letters behind it and the file. -/
def withSignedNumber? (words : List String) : Option (List String) := do
  let word ← words.head?
  let isAlone := match words.tail with
    | [] => true
    | [next] => !next.startsWith "-" || next = "-" || next = "--"
    | ["--", _] => true
    | _ => false
  let sign ← word.toList.head?
  let rest := word.toList.tail
  let digits := rest.takeWhile Char.isDigit
  let letters := rest.drop digits.length
  let (scale, unit) ← match letters.filter (· ≠ 'f') with
    | [] | ['l'] => some (10, "-n")
    | ['b'] => some (5120, "-c")
    | ['c'] => some (10, "-c")
    | _ => none
  let isShort := sign = '-' && (rest = [] || rest = ['c'])
  let endsWell := (letters.idxOf? 'f').all (· + 1 = letters.length)
  if isAlone && ['+', '-'].contains sign && !isShort && endsWell then
    let number := if digits = [] then toString scale else
      String.ofList digits ++ if letters.head? = some 'b' then "b" else ""
    some (unit :: (if sign = '+' then "+" ++ number else number) :: words.tail)
  else none

/-- Shows the end of a text. -/
def showLast (e : Extent) (title path : String) : Effect (Bool × Nat) := do
  match ← readFile path with
  | .ok text =>
    print (title ++ e.last text)
    return (true, 0)
  | .error (.opening reason) =>
    return (false, ← refuse s!"cannot open {Quoting.always path} for reading: {reason}")
  | .error (.reading reason) =>
    print title
    let problem := if path = "-" then "cannot fstat" else "error reading"
    return (true, ← refuse s!"{problem} {described path}: {reason}")

/-- Prints the ends of texts. -/
def tail (words : List String) : Effect Nat := do
  let words := (withSignedNumber? words).getD words
  called (extentOptions ++ [flag 'f', also "f" "follow" .ownValue, flag 'F', long "retry",
      long "pid" .value, valued 's' "sleep-interval", long "max-unchanged-stats" .value] ++
    digitOptions) words fun call => do
      if let some digit := digitOption? call then
        return ← refuse s!"option used in invalid context -- {digit}"
      match Extent.ofCall '+' call with
      | .error text => refuse text
      | .ok e =>
        if e.count = 0 ∧ !e.marked then return 0
        let status ← showParts (areTitled call) (showLast e) true call.inputs
        checkInput "-: Bad file descriptor" call.inputs
        return status

end Programs

end FileScript.Shell
