import FileScript.Shell.Format
import FileScript.Shell.Programs.Basic

/-!
# Words

Programs that print the words with which they are called: as they are, in a format, or again and
again. In a format, a directive takes a word; a format is used again as long as there are words for
it.
-/

namespace FileScript.Shell

namespace Programs

open Effect

/-! ## Escape sequences -/

/-- The value of up to so many digits at the beginning of a text, and what follows them. -/
def leadingDigits (base count : Nat) (text : List Char) : Nat × List Char :=
  let digits := (text.take count).takeWhile fun c => (Integer.digit? c).any (· < base)
  ((Integer.digits base digits).1, text.drop digits.length)

/-- What a word means to `echo` when escape sequences count, and whether all output ends with it. -/
def echoed : Nat → List Char → List Char × Bool
  | 0, _ | _, [] => ([], false)
  | fuel + 1, '\\' :: c :: rest =>
    let goOn (c : Char) (rest : List Char) : List Char × Bool :=
      let (more, stops) := echoed fuel rest
      (c :: more, stops)
    if c = 'c' then ([], true)
    else if c = 'x' then
      let (n, after) := leadingDigits 16 2 rest
      if after.length = rest.length then goOn '\\' ('x' :: rest) else goOn (Char.ofNat n) after
    else if Format.isOctal c then
      let (n, after) := if c = '0' then leadingDigits 8 3 rest else leadingDigits 8 3 (c :: rest)
      goOn (Char.ofNat (n % 256)) after
    else
      let (meant, after) := Format.escape (c :: rest)
      goOn meant after
  | fuel + 1, c :: rest =>
    let (more, stops) := echoed fuel rest
    (c :: more, stops)

/-- What is printed when `echo` is asked what it does. -/
def echoHelp : String :=
  "Usage: echo [SHORT-OPTION]... [STRING]...\n" ++
  "  or:  echo LONG-OPTION\n" ++
  "Echo the STRING(s) to standard output.\n\n" ++
  "  -n             do not output the trailing newline\n" ++
  "  -e             enable interpretation of backslash escapes\n" ++
  "  -E             disable interpretation of backslash escapes (default)\n"

/-- Prints words; options decide on the line end and on escape sequences. -/
def echo (words : List String) : Effect Nat := do
  if words = ["--help"] then
    print echoHelp
    return 0
  if words = ["--version"] then return 0
  let isOption (word : String) : Bool :=
    word.length > 1 && word.startsWith "-" && word.toList.tail.all (· ∈ ['n', 'e', 'E'])
  let found := words.takeWhile isOption
  let letters := found.flatMap (·.toList.tail)
  let text := " ".intercalate (words.drop found.length)
  let ending := if 'n' ∈ letters then "" else "\n"
  if (letters.filter (· ≠ 'n')).getLast? = some 'e' then
    let (meant, stops) := echoed (text.length + 1) text.toList
    print (String.ofList meant ++ if stops then "" else ending)
  else print (text ++ ending)
  return 0

/-! ## Formats -/

namespace Formatted

/-- What has been printed in a format. -/
structure Progress where
  output : String := ""
  /-- The words that are left. -/
  words : List String
  warnings : List String := []
  /-- Whether one of the words was wrong. -/
  isWrong : Bool := false

/-- Why printing ends before the format does. -/
inductive Break where
  /-- All output ends here. -/
  | asked
  | mistake (text : String)

/-- Steps of printing. -/
abbrev Step := EStateM Break Progress

/-- Prints a text. -/
def put (text : String) : Step Unit := modify fun p => { p with output := p.output ++ text }

/-- Tells what is wrong with a word. -/
def warn (text : String) (isWrong : Bool := true) : Step Unit := modify fun p =>
  { p with warnings := p.warnings ++ [text], isWrong := p.isWrong || isWrong }

/-- Takes the next word, which is empty if there is none. -/
def next : Step String := do
  let p ← get
  set { p with words := p.words.tail }
  return p.words.headD ""

/-- Prints the character with a number that is written with so many digits. -/
def putNumbered (letter : Char) (count : Nat) (text : List Char) : Step (List Char) := do
  let (n, rest) := leadingDigits 16 count text
  if text.length - rest.length < count then
    throw (.mistake "missing hexadecimal number in escape")
  if (n < 0xa0 ∧ n ∉ [0x24, 0x40, 0x60]) ∨ (0xd800 ≤ n ∧ n < 0xe000) then
    throw (.mistake ("invalid universal character name \\" ++ letter.toString ++
      Octets.padded count n 16))
  put (Octets.ofString (Char.ofNat n).toString)
  return rest

/-- Prints what an escape sequence means, after its backslash. Within words, octal numbers may have
one more zero before them. -/
def escape (inWord : Bool) (text : List Char) : Step (List Char) := do
  match text with
  | [] =>
    put "\\"
    return []
  | c :: rest =>
    if c = 'x' then
      let (n, after) := leadingDigits 16 2 rest
      if after.length = rest.length then
        throw (.mistake "missing hexadecimal number in escape")
      put (Char.ofNat n).toString
      return after
    else if Format.isOctal c then
      let (n, after) := leadingDigits 8 3 (if inWord ∧ c = '0' then rest else text)
      put (Char.ofNat (n % 256)).toString
      return after
    else if c = 'c' then throw .asked
    else if c = '"' then
      put "\""
      return rest
    else if c = 'u' then putNumbered c 4 rest
    else if c = 'U' then putNumbered c 8 rest
    else
      let (meant, after) := Format.escape text
      if meant = '\\' ∧ c ≠ '\\' then
        put (String.ofList ['\\', c])
        return rest
      put meant.toString
      return after

/-- Prints a word with its escape sequences replaced. -/
def putEscaped : Nat → List Char → Step Unit
  | 0, _ | _, [] => return
  | fuel + 1, '\\' :: rest => do putEscaped fuel (← escape true rest)
  | fuel + 1, c :: rest => do
    put c.toString
    putEscaped fuel rest

/-- The code of the character after a quotation mark, if a word begins with one. -/
def quotedCode? (word : String) : Step (Option Nat) := do
  match word.toList with
  | q :: c :: rest =>
    if q ≠ '"' ∧ q ≠ '\'' then return none
    let (code, rest) := match Octets.pieces (String.ofList (c :: rest)) with
      | .char d :: more => (d.toNat, String.join (more.map Octets.Piece.text))
      | _ => (c.toNat, String.ofList rest)
    if rest ≠ "" then
      warn (s!"warning: {rest}: character(s) following character constant have been ignored") false
    return some code
  | _ => return none

/-- Tells what is wrong with a word that should be a number. `rest` is what follows the number. -/
def check (word : String) (rest : Option (List Char)) (inRange : Bool) : Step Unit := do
  let shown := Quoting.value word
  match rest with
  | none => unless word = "" do warn s!"{shown}: expected a numeric value"
  | some rest =>
    if !inRange then warn s!"{shown}: Numerical result out of range"
    else if rest ≠ [] then warn s!"{shown}: value not completely converted"

/-- A word as an integer between two limits. -/
def integerIn (least greatest : Int) (word : String) : Step Int := do
  if let some code ← quotedCode? word then return code
  let found := Integer.scan? 0 word.toList
  let n := (found.map (·.1)).getD 0
  check word (found.map (·.2)) (least ≤ n && n ≤ greatest)
  return max least (min greatest n)

/-- A word as a signed integer. -/
def signedOf (word : String) : Step Int := integerIn Integer.least Integer.greatest word

/-- A word as an unsigned integer; negative ones wrap around. -/
def unsignedOf (word : String) : Step Nat := do
  let size : Int := UInt64.size
  return ((← integerIn (1 - size) (size - 1) word) % size).toNat

/-- A word as a fraction. -/
def fractionOf (word : String) : Step Binary := do
  if let some code ← quotedCode? word then return .ofFraction false code 1 .extended
  let found := Binary.scan? word.toList .extended
  let b := (found.map (·.1)).getD {}
  check word (found.map (·.2)) !b.rounded
  return b

/-- A width or a precision: a number that is written, or one that is the next word. -/
def sizeOf (what : String) (text : List Char) : Step (Option Int × List Char) := do
  match text with
  | '*' :: rest =>
    if (← get).words = [] then return (some 0, rest)
    let word ← next
    let n ← signedOf word
    let limit : Int := Int32.maxValue.toInt
    if limit < n ∨ (n < -limit - 1 ∧ what = "field width") then
      throw (.mistake ("invalid " ++ what ++ ": " ++ Quoting.value word))
    return (some n, rest)
  | _ =>
    let digits := text.takeWhile Char.isDigit
    if digits = [] then return (none, text)
    return (some (Integer.digits 10 digits).1, text.drop digits.length)

/-- Whether a directive with flags may have a letter. -/
def isAllowed (flags : List Char) (hasPrecision : Bool) (letter : Char) : Bool :=
  letter ∈ "aAcdeEfFgGiosuxX".toList &&
    !(('\'' ∈ flags || 'I' ∈ flags) && letter ∈ "aAceEosxX".toList) &&
    !('#' ∈ flags && letter ∈ "cdisu".toList) &&
    !('0' ∈ flags && letter ∈ "cs".toList) && !(hasPrecision && letter = 'c')

/-- Prints a word as a directive with a letter asks for it. -/
def putWord (d : Format.Directive) (letter : Char) (word : String) : Step Unit := do
  let cut (text : String) : String :=
    match d.precision with
    | some n => String.ofList (text.toList.take n)
    | none => text
  match letter with
  | 'c' => put (d.align (word.toList.headD '\x00').toString)
  | 's' => put (d.align (cut word))
  | 'd' | 'i' => put (d.signed (← signedOf word))
  | 'o' | 'u' | 'x' | 'X' => put (d.unsigned letter (← unsignedOf word))
  | _ => put (d.fraction letter (← fractionOf word) true)

/-- Carries out a directive, after its percent sign, and yields what follows it. -/
def directive (text : List Char) : Step (List Char) := do
  match text with
  | 'b' :: rest =>
    let word ← next
    putEscaped (word.length + 1) word.toList
    return rest
  | 'q' :: rest =>
    if (← get).words ≠ [] then put (Quoting.listed (← next))
    return rest
  | _ =>
    let flags := text.takeWhile (· ∈ ['#', '-', '+', ' ', '0', '\'', 'I'])
    let (width, afterWidth) ← sizeOf "field width" (text.drop flags.length)
    let (precision, rest) ← match afterWidth with
      | '.' :: more => do
        let (n, rest) ← sizeOf "precision" more
        pure (some (n.getD 0), rest)
      | _ => pure (none, afterWidth)
    let rest := rest.dropWhile (· ∈ ['l', 'L', 'h', 'j', 't', 'z'])
    let letter := rest.headD '\x00'
    if !isAllowed flags precision.isSome letter then
      let shown := String.ofList (text.take (text.length - rest.length + 1))
      throw (.mistake s!"%{shown}: invalid conversion specification")
    let width := width.getD 0
    let d : Format.Directive := {
      leftAligned := '-' ∈ flags || width < 0, plus := '+' ∈ flags, space := ' ' ∈ flags
      alternative := '#' ∈ flags, zeros := '0' ∈ flags, width := width.natAbs
      precision := (precision.filter (0 ≤ ·)).map Int.toNat }
    putWord d letter (← next)
    return rest.tail

/-- Prints a format once. -/
def once : Nat → List Char → Step Unit
  | 0, _ | _, [] => return
  | fuel + 1, '\\' :: rest => do once fuel (← escape false rest)
  | fuel + 1, '%' :: '%' :: rest => do
    put "%"
    once fuel rest
  | fuel + 1, '%' :: rest => do once fuel (← directive rest)
  | fuel + 1, c :: rest => do
    put c.toString
    once fuel rest

/-- Prints a format as often as there are words for it. -/
def repeated (format : List Char) : Nat → Step Unit
  | 0 => return
  | fuel + 1 => do
    let before := (← get).words.length
    once (format.length + 1) format
    let { words, .. } ← get
    if words ≠ [] then
      if words.length < before then repeated format fuel
      else
        let shown := Quoting.value (words.headD "")
        warn s!"warning: ignoring excess arguments, starting with {shown}" false

end Formatted

/-- Prints words in a format. -/
def printf (words : List String) : Effect Nat := do
  if words = ["--help"] ∨ words = ["--version"] then return 0
  match if words.head? = some "--" then words.tail else words with
  | [] => lacksOperand
  | format :: words =>
    let finish (p : Formatted.Progress) (mistake : Option String) : Effect Unit := do
      (p.warnings ++ mistake.toList).forM tell
      print p.output
    match Formatted.repeated format.toList (words.length + 1) { words } with
    | .ok () p =>
      finish p none
      return if p.isWrong then 1 else 0
    | .error .asked p =>
      finish p none
      return 0
    | .error (.mistake text) p =>
      finish p (some text)
      return 1

/-! ## Again and again -/

/-- How much a program prints that never ends by itself. No reader in the same shell takes more. -/
def endlessSize : Nat := 1 <<< 16

/-- Prints words again and again. -/
def yes (words : List String) : Effect Nat :=
  called [] words fun call => do
    let line := " ".intercalate (if call.operands = [] then ["y"] else call.operands) ++ "\n"
    print (String.join (List.replicate (endlessSize / line.length + 1) line))
    return 0

end Programs

end FileScript.Shell
