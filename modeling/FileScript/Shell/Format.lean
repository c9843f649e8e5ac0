import FileScript.Shell.Decimal
import FileScript.Shell.Octets

/-!
# Formatted output

What the commands `echo` and `printf` print. Backslashes begin escape sequences; in the format of
`printf`, percent signs begin directives, and the format is used again as long as there are words
for it.
-/

namespace FileScript.Shell.Format

/-! ## Escape sequences -/

/-- Whether a character is an octal digit. -/
def isOctal (c : Char) : Bool := '0' ≤ c && c ≤ '7'

/-- The character that an escape sequence denotes, after its backslash, and what follows it. A
backslash that begins none denotes itself. -/
def escape (text : List Char) : Char × List Char :=
  match text with
  | 'a' :: rest => ('\x07', rest)
  | 'b' :: rest => ('\x08', rest)
  | 'e' :: rest => ('\x1b', rest)
  | 'f' :: rest => ('\x0c', rest)
  | 'n' :: rest => ('\n', rest)
  | 'r' :: rest => ('\r', rest)
  | 't' :: rest => ('\t', rest)
  | 'v' :: rest => ('\x0b', rest)
  | '\\' :: rest => ('\\', rest)
  | c :: _ =>
    if isOctal c then
      let digits := (text.take 3).takeWhile isOctal
      (Char.ofNat ((Integer.digits 8 digits).1 % 256), text.drop digits.length)
    else ('\\', text)
  | [] => ('\\', [])

/-- A text with its escape sequences replaced, up to one that ends all output, and whether there is
such a one. Octal numbers can have one more zero before them here. -/
def escaped : Nat → List Char → List Char → String × Bool
  | 0, done, _ | _, done, [] => (String.ofList done.reverse, false)
  | fuel + 1, done, '\\' :: rest =>
    match rest with
    | 'c' :: _ => (String.ofList done.reverse, true)
    | '0' :: d :: more =>
      let (c, rest) := escape (if isOctal d then d :: more else rest)
      escaped fuel (c :: done) rest
    | _ =>
      let (c, rest) := escape rest
      escaped fuel (c :: done) rest
  | fuel + 1, done, c :: rest => escaped fuel (c :: done) rest

/-- A text with its escape sequences replaced. -/
def unescape (text : String) : String × Bool := escaped (text.length + 1) [] text.toList

/-- What `echo` prints. -/
def echo (words : List String) : String :=
  match words with
  | "-n" :: words => go "" "" words
  | _ => go "\n" "" words
where
  /-- The rest of what is printed. -/
  go (ending separator : String) : List String → String
    | [] => ending
    | word :: rest =>
      let (text, stops) := unescape word
      if stops then separator ++ text else separator ++ text ++ go ending " " rest

/-! ## Directives -/

/-- A directive of a format. -/
structure Directive where
  leftAligned : Bool := false
  plus : Bool := false
  space : Bool := false
  alternative : Bool := false
  zeros : Bool := false
  width : Nat := 0
  precision : Option Nat := none

namespace Directive

/-- A text as a directive aligns it. -/
def align (d : Directive) (text : String) : String :=
  let missing := d.width - text.length
  if d.leftAligned then text.pushn ' ' missing else "".pushn ' ' missing ++ text

/-- A number as a directive aligns it: zeros go between its sign and its digits. -/
def alignNumber (d : Directive) (sign digits : String) (zeros : Bool) : String :=
  if zeros ∧ ¬d.leftAligned then
    sign ++ "".pushn '0' (d.width - sign.length - digits.length) ++ digits
  else d.align (sign ++ digits)

/-- The digits of an integer with the least number of them. -/
def integerDigits (d : Directive) (base n : Nat) : String :=
  if n = 0 ∧ d.precision = some 0 then "" else Octets.padded (d.precision.getD 1) n base

/-- The sign of a number. -/
def sign (d : Directive) (negative : Bool) : String :=
  if negative then "-" else if d.plus then "+" else if d.space then " " else ""

/-- A signed integer as a directive writes it. -/
def signed (d : Directive) (n : Int) : String :=
  d.alignNumber (d.sign (n < 0)) (d.integerDigits 10 n.natAbs) (d.zeros && d.precision.isNone)

/-- An unsigned integer as a directive with a letter writes it. -/
def unsigned (d : Directive) (letter : Char) (n : Nat) : String :=
  let base := if letter = 'o' then 8 else if letter = 'u' then 10 else 16
  let digits := d.integerDigits base n
  let digits := if letter = 'X' then String.ofList (digits.toList.map Char.toUpper) else digits
  let digits :=
    if d.alternative ∧ letter = 'o' ∧ ¬digits.startsWith "0" then "0" ++ digits else digits
  let mark :=
    if d.alternative ∧ n ≠ 0 ∧ (letter = 'x' ∨ letter = 'X') then String.ofList ['0', letter]
    else ""
  d.alignNumber mark digits (d.zeros && d.precision.isNone)

/-- A fraction as a directive with a letter writes it. `full` is for hexadecimal digits that are all
full. -/
def fraction (d : Directive) (letter : Char) (b : Binary) (full : Bool := false) : String :=
  let places := d.precision.getD 6
  let isHexadecimal := letter.toLower = 'a' && !b.undefined && !b.infinite
  let text :=
    if b.undefined then "nan"
    else if b.infinite then "inf"
    else match letter.toLower with
      | 'a' => b.hexadecimal d.precision d.alternative full
      | 'e' => b.scientific places d.alternative
      | 'g' => b.general places d.alternative
      | _ => b.fixed places d.alternative
  let inCase (text : String) : String :=
    if letter.isUpper then String.ofList (text.toList.map Char.toUpper) else text
  let mark := if isHexadecimal then inCase "0x" else ""
  d.alignNumber (d.sign b.negative ++ mark) (inCase text)
    (d.zeros && !b.infinite && !b.undefined)

/-- The flags, the width and the precision at the beginning of a text, and what follows them. -/
def ofText (text : List Char) : Directive × List Char :=
  let flags := text.takeWhile (· ∈ ['#', '-', '+', ' ', '0', '\''])
  let (width, rest) := Integer.digits 10 (text.drop flags.length)
  let (precision, rest) := match rest with
    | '.' :: more =>
      let (n, rest) := Integer.digits 10 more
      (some n, rest)
    | _ => (none, rest)
  ({ leftAligned := '-' ∈ flags, plus := '+' ∈ flags, space := ' ' ∈ flags
     alternative := '#' ∈ flags, zeros := '0' ∈ flags, width, precision }, rest)

end Directive

/-! ## Formats -/

/-- The output of `printf` as far as it has come. -/
structure Printing where
  output : String := ""
  /-- The words that are left. -/
  words : List String
  warnings : List String := []
  /-- Whether nothing more is printed. -/
  stopped : Bool := false

/-- Steps of printing; they fail with a message. -/
abbrev Step := EStateM String Printing

/-- Prints a text. -/
def put (text : String) : Step Unit := modify fun p => { p with output := p.output ++ text }

/-- Warns of a word. -/
def warn (text : String) : Step Unit := modify fun p =>
  { p with warnings := p.warnings ++ [text] }

/-- Takes the next word, if there is one. -/
def next? : Step (Option String) := do
  let p ← get
  set { p with words := p.words.tail }
  return p.words.head?

/-- Warns if a word is no number, or more than one. `rest` is what follows the number. -/
def check (word : String) (rest : Option (List Char)) (inRange : Bool) : Step Unit := do
  match rest with
  | none => unless word = "" do warn s!"{word}: expected numeric value"
  | some (_ :: _) => warn s!"{word}: not completely converted"
  | some [] => unless inRange do warn s!"{word}: Numerical result out of range"

/-- The code of the character after a quotation mark, if a word begins with one. -/
def quotedCode? (word : String) : Option Nat :=
  match word.toList with
  | q :: rest => if q = '"' ∨ q = '\'' then some ((rest.head?.map Char.toNat).getD 0) else none
  | [] => none

/-- Takes the next word as an integer between two limits. -/
def nextInteger (least greatest : Int) : Step Int := do
  match ← next? with
  | none => return 0
  | some word =>
    match quotedCode? word with
    | some code => return code
    | none =>
      let found := Integer.scan? 0 word.toList
      let n := (found.map (·.1)).getD 0
      check word (found.map (·.2)) (least ≤ n && n ≤ greatest)
      return max least (min greatest n)

/-- Takes the next word as a signed integer. -/
def nextSigned : Step Int := nextInteger Integer.least Integer.greatest

/-- Takes the next word as an unsigned integer; negative ones wrap around. -/
def nextUnsigned : Step Nat := do
  let size : Int := UInt64.size
  return ((← nextInteger (1 - size) (size - 1)) % size).toNat

/-- Takes the next word as a fraction. -/
def nextFraction : Step Binary := do
  match ← next? with
  | none => return {}
  | some word =>
    match quotedCode? word with
    | some code => return .ofFraction false code 1
    | none =>
      let found := Binary.scan? word.toList
      let b := (found.map (·.1)).getD {}
      check word (found.map (·.2)) !b.rounded
      return b

/-- The greatest width or precision. -/
def greatestSize : Nat := UInt32.size / 2 - 1

/-- A width or a precision: a number that is written, or one that is the next word, of which only 32
bits count. -/
def size (text : List Char) : Step (Option Int × List Char) := do
  match text with
  | '*' :: rest => return (some (Int.bmod (← nextSigned) UInt32.size), rest)
  | _ =>
    let digits := text.takeWhile Char.isDigit
    if digits = [] then return (none, text)
    return (some (Integer.digits 10 digits).1, text.drop digits.length)

/-- Carries out a directive, after its percent sign, and yields what follows it. -/
def directive (text : List Char) : Step (List Char) := do
  let flags := text.takeWhile (· ∈ ['#', '-', '+', ' ', '0'])
  let (width, afterWidth) ← size (text.drop flags.length)
  let (precision, rest) ← match afterWidth with
    | '.' :: more => do
      let (n, rest) ← size more
      pure (some (n.getD 0), rest)
    | _ => pure (none, afterWidth)
  let width := width.getD 0
  let d : Directive := {
    leftAligned := '-' ∈ flags || width < 0, plus := '+' ∈ flags, space := ' ' ∈ flags
    alternative := '#' ∈ flags, zeros := '0' ∈ flags, width := width.natAbs
    precision := (precision.filter (0 ≤ ·)).map Int.toNat }
  let cut (text : String) : String :=
    match d.precision with
    | some n => String.ofList (text.toList.take n)
    | none => text
  match rest with
  | [] => throw "missing format character"
  | letter :: rest =>
    if d.width > greatestSize ∨ d.precision.any (· > greatestSize) then
      throw "xvsnprintf failed"
    match letter with
    | 'b' =>
      let (text, stops) := unescape ((← next?).getD "")
      put (d.align (cut text))
      if stops then modify ({ · with stopped := true })
    | 'c' => put (d.align (((← next?).getD "").toList.headD '\x00').toString)
    | 's' => put (d.align (cut ((← next?).getD "")))
    | 'd' | 'i' => put (d.signed (← nextSigned))
    | 'o' | 'u' | 'x' | 'X' => put (d.unsigned letter (← nextUnsigned))
    | 'a' | 'A' | 'e' | 'E' | 'f' | 'F' | 'g' | 'G' =>
      put (d.fraction letter (← nextFraction))
    | _ =>
      let shown := text.take (text.length - rest.length)
      throw s!"%{String.ofList shown}: invalid directive"
    return rest

/-- Prints a format once. -/
def once : Nat → List Char → Step Unit
  | 0, _ | _, [] => return
  | fuel + 1, '\\' :: rest => do
    let (c, rest) := escape rest
    put c.toString
    once fuel rest
  | fuel + 1, '%' :: '%' :: rest => do
    put "%"
    once fuel rest
  | fuel + 1, '%' :: rest => do
    let rest ← directive rest
    unless (← get).stopped do once fuel rest
  | fuel + 1, c :: rest => do
    put c.toString
    once fuel rest

/-- Prints a format as often as there are words for it. -/
def repeated (format : List Char) : Nat → Step Unit
  | 0 => return
  | fuel + 1 => do
    let before := (← get).words.length
    once (format.length + 1) format
    let p ← get
    if !p.stopped ∧ p.words ≠ [] ∧ p.words.length < before then repeated format fuel

/-- What `printf` makes of a format and words. -/
def printf (format : String) (words : List String) : Option String × Printing :=
  match repeated format.toList (words.length + 1) { words } with
  | .ok () p => (none, p)
  | .error message p => (some message, p)

end FileScript.Shell.Format
