import FileScript.Shell.Editing.Syntax
import FileScript.Shell.Integer
import FileScript.Shell.LinePattern.Reader

/-!
# Reading scripts that edit lines

A script comes in pieces: the words of options and the texts of files. A message about a mistake
says in which piece it is, and at which character or line.
-/

namespace FileScript.Shell

namespace Editing

open Octets (Piece)

/-- A piece of a script. -/
structure Chunk where
  /-- The file from which it comes. -/
  file : Option String := none
  text : String
  deriving Repr, Inhabited

/-- Stands between pieces of a script. -/
def chunkEnd : Char := Char.ofNat 0x100

/-- Whether a character ends a line of a script. -/
def endsLine (c : Char) : Bool := c = '\n' || c = chunkEnd

/-- What is wrong with a script. -/
inductive Fault where
  /-- Wrong at the place behind so many characters. -/
  | here (text : String)
  /-- Wrong wherever it is. -/
  | anywhere (text : String)
  deriving Repr, Inhabited

/-- A script that is being read. -/
structure Reader where
  rest : List Char
  /-- How many characters have been read. -/
  position : Nat := 0
  extended : Bool := false
  /-- Whether nothing but the text may be read and written. -/
  sandboxed : Bool := false
  commands : Script := #[]
  /-- The open blocks: their places among the commands and in the script. -/
  blocks : List (Nat × Nat) := []
  /-- The files to which something can be written. -/
  files : List String := []
  deriving Inhabited

/-- Steps of reading. -/
abbrev Step := ExceptT Fault (StateM Reader)

/-- Fails at the place where the reader is. -/
def wrong {α : Type} (text : String) : Step α := throw (.here text)

/-- The next character. -/
def peek? : Step (Option Char) := return (← get).rest.head?

/-- Passes the next character. -/
def skip : Step Unit := modify fun r =>
  match r.rest with
  | [] => r
  | _ :: rest => { r with rest, position := r.position + 1 }

/-- Takes the next character. -/
def next? : Step (Option Char) := do
  let c ← peek?
  skip
  return c

/-- Passes characters that hold a condition. -/
def skipWhile (p : Char → Bool) : Step Unit := modify fun r =>
  let passed := r.rest.takeWhile p
  { r with rest := r.rest.drop passed.length, position := r.position + passed.length }

/-- Takes characters that hold a condition. -/
def takeWhile (p : Char → Bool) : Step (List Char) := do
  let taken := (← get).rest.takeWhile p
  skipWhile p
  return taken

/-- Whether a character is a blank. -/
def isBlank (c : Char) : Bool := c = ' ' || c = '\t'

/-- Whether a character is white space. -/
def isSpace (c : Char) : Bool := isBlank c || c = '\n' || c = '\r' || c = '\x0b' || c = '\x0c'

/-- Takes a number. -/
def number : Step Nat := return (Integer.digits 10 (← takeWhile Char.isDigit)).1

/-- Takes what ends a command. -/
def commandEnd : Step Unit := do
  skipWhile isBlank
  match ← peek? with
  | none | some '\x7d' | some '#' => return
  | some c =>
    skip
    if !endsLine c ∧ c ≠ ';' then wrong "extra characters after command"

/-! ## Escape sequences -/

/-- The value of a hexadecimal digit. -/
def digitValue (c : Char) : Nat :=
  if c.isDigit then c.toNat - '0'.toNat else c.toLower.toNat + 10 - 'a'.toNat

/-- Whether a character is a digit of a base. -/
def isDigitOf (base : Nat) (c : Char) : Bool :=
  (c.isDigit || (c.isAlpha && base = 16)) && digitValue c < base

/-- The byte that an escape sequence denotes, which is written as a number, and what follows it. -/
def numbered (base size : Nat) (text : List Char) : Option (Char × List Char) :=
  let digits := (text.take size).takeWhile (isDigitOf base)
  if digits = [] then none
  else
    let value := digits.foldl (fun n c => base * n + digitValue c) 0
    some (Char.ofNat (value % 256), text.drop digits.length)

/-- The byte that an escape sequence denotes behind its backslash, and what follows it. -/
def escape? : List Char → Option (Char × List Char)
  | 'a' :: rest => some ('\x07', rest)
  | 'f' :: rest => some ('\x0c', rest)
  | 'n' :: rest => some ('\n', rest)
  | 'r' :: rest => some ('\r', rest)
  | 't' :: rest => some ('\t', rest)
  | 'v' :: rest => some ('\x0b', rest)
  | 'c' :: c :: rest => some (Char.ofNat (c.toUpper.toNat ^^^ 0x40), rest)
  | 'd' :: rest => numbered 10 3 rest
  | 'o' :: rest => numbered 8 3 rest
  | 'x' :: rest => numbered 16 2 rest
  | _ => none

/-- A pattern with its escape sequences replaced. Other backslashes stay. -/
def unescapePattern : Nat → List Char → List Char
  | 0, text => text
  | _, [] => []
  | fuel + 1, '\\' :: rest =>
    match escape? rest, rest with
    | some (c, rest), _ => c :: unescapePattern fuel rest
    | none, c :: rest => '\\' :: c :: unescapePattern fuel rest
    | none, [] => ['\\']
  | fuel + 1, c :: rest => c :: unescapePattern fuel rest

/-- A text with its escape sequences replaced. Other backslashes are left out. -/
def unescapeText : Nat → List Char → List Char
  | 0, text => text
  | _, [] => []
  | fuel + 1, '\\' :: rest =>
    match escape? rest, rest with
    | some (c, rest), _ => c :: unescapeText fuel rest
    | none, c :: rest => c :: unescapeText fuel rest
    | none, [] => []
  | fuel + 1, c :: rest => c :: unescapeText fuel rest

/-! ## Patterns -/

/-- What is left of a list in brackets, up to the bracket that ends it. `mark` is the sign of a name
in the list. -/
def bracketRest : (isFirst : Bool) → (mark : Option Char) → List Char → List Char
  | _, _, [] => []
  | isFirst, mark, c :: rest =>
    match mark with
    | some m =>
      let ends := c = m && rest.head? = some ']'
      match ends, rest with
      | true, b :: rest => c :: b :: bracketRest false none rest
      | _, rest => c :: bracketRest false mark rest
    | none =>
      if endsLine c then []
      else if c = ']' ∧ !isFirst then [c]
      else match c, rest with
        | '[', m :: rest =>
          if m ∈ [':', '.', '='] then c :: m :: bracketRest false (some m) rest
          else c :: bracketRest false none (m :: rest)
        | '^', rest => c :: bracketRest isFirst none rest
        | _, rest => c :: bracketRest false none rest
termination_by _ _ text => text.length

/-- The text up to a delimiter, as far as there is one; and how many characters were read. In a
pattern, delimiters in lists do not count. -/
def delimited (mark : Char) (isPattern : Bool) : Nat → List Char → List Char × Nat × Bool
  | 0, _ | _, [] => ([], 0, false)
  | fuel + 1, c :: rest =>
    let more (found : List Char) (size : Nat) (rest : List Char) : List Char × Nat × Bool :=
      let (others, count, closed) := delimited mark isPattern fuel rest
      (found ++ others, size + count, closed)
    if c = mark then ([], 1, true)
    else if endsLine c then ([], 0, false)
    else if c = '\\' then
      match rest with
      | [] => ([], 1, false)
      | d :: rest =>
        if d = chunkEnd then ([], 1, false)
        else if d = 'n' ∧ isPattern then more ['\n'] 2 rest
        else if d = '\n' ∨ d = mark ∧ (isPattern ∨ d ≠ '&') then more [d] 2 rest
        else more ['\\', d] 2 rest
    else if c = '[' ∧ isPattern then
      let list := bracketRest true none rest
      let shown := list.foldr (fun c found =>
        match c, found with
        | '\\', 'n' :: others => '\n' :: others
        | _, _ => c :: found) []
      more (c :: shown) (list.length + 1) (rest.drop list.length)
    else more [c] 1 rest

/-- Takes the text up to a delimiter. `failure` is said if there is none. -/
def upTo (mark : Char) (isPattern : Bool) (failure : String) : Step (List Char) := do
  let r ← get
  let (text, count, closed) := delimited mark isPattern (r.rest.length + 1) r.rest
  set { r with rest := r.rest.drop count, position := r.position + count }
  if !closed then wrong failure
  return text

/-- Takes the delimiter of a command. -/
def delimiter (failure : String) : Step Char := do
  match ← peek? with
  | none => wrong failure
  | some c =>
    if endsLine c ∨ c = '\\' ∧ (← get).rest.length = 1 then wrong failure
    skip
    if 127 < c.toNat then wrong "delimiter character is not a single-byte character"
    return c

/-- The pattern that is written in a script. -/
def sought (text : List Char) (foldsCase byLines : Bool) : Step Sought := do
  if text = [] then
    if foldsCase ∨ byLines then wrong "cannot specify modifiers on empty regexp"
    return .previous
  let pieces := Octets.pieces (String.ofList (unescapePattern text.length text))
  match LinePattern.read { extended := (← get).extended } pieces with
  | .ok (e, _) => return .pattern e { foldsCase, byLines }
  | .error .confusing => throw (.anywhere (LinePattern.Mistake.text .confusing))
  | .error fault => wrong fault.text

/-- Takes the letters behind a pattern in an address. -/
def addressFlags : Nat → (foldsCase byLines : Bool) → Step (Bool × Bool)
  | 0, foldsCase, byLines => return (foldsCase, byLines)
  | fuel + 1, foldsCase, byLines => do
    skipWhile isBlank
    match ← peek? with
    | some 'I' => do
      skip
      addressFlags fuel true byLines
    | some 'M' => do
      skip
      addressFlags fuel foldsCase true
    | _ => return (foldsCase, byLines)

/-! ## Addresses -/

/-- Takes a pattern of an address, behind its delimiter. -/
def fittingAddress (mark : Char) : Step Sought := do
  let text ← upTo mark true "unterminated address regex"
  let (foldsCase, byLines) ← addressFlags ((← get).rest.length + 1) false false
  sought text foldsCase byLines

/-- Takes a number behind a sign, which may be left out. -/
def numberBehind : Step Nat := do
  skip
  skipWhile isBlank
  number

/-- Takes a first address. -/
def address? : Step (Option Address) := do
  match ← peek? with
  | some '/' => do
    skip
    return some (.fitting (← fittingAddress '/'))
  | some '\\' => do
    skip
    let mark ← delimiter "unterminated address regex"
    return some (.fitting (← fittingAddress mark))
  | some '$' => do
    skip
    return some .last
  | some '+' | some '~' => do
    discard numberBehind
    wrong "invalid usage of +N or ~N as first address"
  | some c =>
    if !c.isDigit then return none
    let first ← number
    skipWhile isBlank
    if (← peek?) = some '~' then
      let step ← numberBehind
      return some (if step = 0 then .line first else .every first step)
    return some (.line first)
  | none => return none

/-- Takes a second address, behind the comma. -/
def reach : Step Reach := do
  skipWhile isBlank
  match ← peek? with
  | some '+' => return .more (← numberBehind)
  | some '~' => return .multiple (← numberBehind)
  | _ =>
    match ← address? with
    | some (.line n) => return .line n
    | some (.every first _) => return .line first
    | some .last => return .last
    | some (.fitting s) => return .fitting s
    | none => do
      if (← peek?).any (!endsLine ·) then skip
      wrong "unexpected \x60,'"

/-! ## Words of commands -/

/-- Takes a label. -/
def label : Step String := do
  skipWhile isBlank
  let isPart (c : Char) : Bool := !endsLine c && !isSpace c && c ≠ ';' && c ≠ '\x7d'
  return String.ofList (← takeWhile isPart)

/-- Takes the name of a file. -/
def fileName : Step String := do
  if (← get).sandboxed then wrong "e/r/w commands disabled in sandbox mode"
  skipWhile isBlank
  let name ← takeWhile (!endsLine ·)
  if name = [] then wrong "missing filename in r/R/w/W commands"
  return String.ofList name

/-- Takes the name of a file to which something is written. -/
def outputName : Step String := do
  let name ← fileName
  modify fun r => { r with files := r.files ++ if name ∈ r.files then [] else [name] }
  return name

/-- The text of a command up to the end of its last line. -/
def textLines : List Char → List Char × Nat
  | [] => ([], 0)
  | ['\\'] => ([], 1)
  | '\\' :: c :: rest =>
    let (text, count) := textLines rest
    ('\\' :: (if c = chunkEnd then '\n' else c) :: text, count + 2)
  | c :: rest =>
    if endsLine c then ([], 0)
    else
      let (text, count) := textLines rest
      (c :: text, count + 1)

/-- Takes the text of a command. -/
def text : Step String := do
  skipWhile isBlank
  match ← peek? with
  | none => wrong "expected \\ after \x60a', \x60c' or \x60i'"
  | some c =>
    if c = chunkEnd then wrong "expected \\ after \x60a', \x60c' or \x60i'"
    if c = '\\' then
      skip
      match ← peek? with
      | none => return ""
      | some c => if endsLine c then skip
    let r ← get
    let (found, count) := textLines r.rest
    set { r with rest := r.rest.drop count, position := r.position + count }
    skip
    return String.ofList (unescapeText (found.length + 1) found) ++ "\n"

/-! ## Substitutions -/

/-- How the letters of the next part of a replacement are changed: all of them, and the first one.
-/
abbrev Change := Case × Case

/-- The parts of a replacement. `found` are the characters since the last part, in reverse order;
`kept` is how letters are changed behind a part for whose first letter something else holds. -/
def partsOf : Nat → (found : List Piece) → (change : Change) → (kept : Case) → List Piece →
    List Part
  | 0, _, _, _, _ => []
  | _, found, change, _, [] =>
    if found = [] then []
    else [{ text := found.reverse, letters := change.1, first := change.2 }]
  | fuel + 1, found, change, kept, .char '&' :: rest =>
    { text := found.reverse, group := some 0, letters := change.1, first := change.2 } ::
      partsOf fuel [] (kept, .same) kept rest
  | fuel + 1, found, change, kept, .char '\\' :: rest =>
    let part : Part := { text := found.reverse, letters := change.1, first := change.2 }
    match rest with
    | .char c :: rest =>
      if c.isDigit then
        { part with group := some (c.toNat - '0'.toNat) } ::
          partsOf fuel [] (kept, .same) kept rest
      else match c with
        | 'U' => part :: partsOf fuel [] (.upper, .same) .upper rest
        | 'L' => part :: partsOf fuel [] (.lower, .same) .lower rest
        | 'E' => part :: partsOf fuel [] (.same, .same) .same rest
        | 'u' => part :: partsOf fuel [] (kept, .upper) kept rest
        | 'l' => part :: partsOf fuel [] (kept, .lower) kept rest
        | _ => partsOf fuel (.char c :: found) change kept rest
    | p :: rest => partsOf fuel (p :: found) change kept rest
    | [] => [part]
  | fuel + 1, found, change, kept, p :: rest => partsOf fuel (p :: found) change kept rest

/-- A replacement with the bytes put in that its escape sequences denote. A byte that would have a
meaning keeps a backslash. -/
def unescapeReplacement : Nat → List Char → List Char
  | 0, text => text
  | _, [] => []
  | fuel + 1, '\\' :: rest =>
    match escape? rest, rest with
    | some (c, rest), _ =>
      let shown := if c = '&' ∨ c = '\\' then ['\\', c] else [c]
      shown ++ unescapeReplacement fuel rest
    | none, c :: rest => '\\' :: c :: unescapeReplacement fuel rest
    | none, [] => ['\\']
  | fuel + 1, c :: rest => c :: unescapeReplacement fuel rest

/-- The parts of a written replacement. -/
def replacement (text : List Char) : List Part :=
  let pieces := Octets.pieces (String.ofList (unescapeReplacement (text.length + 1) text))
  partsOf (pieces.length + 1) [] (.same, .same) .same pieces

/-- What the letters behind a substitution ask for. -/
structure Flags where
  everywhere : Bool := false
  prints : Bool := false
  first : Option Nat := none
  foldsCase : Bool := false
  byLines : Bool := false
  file : Option String := none
  deriving Repr, Inhabited

/-- Takes the letters behind a substitution. -/
def flags : Nat → Flags → Step Flags
  | 0, f => return f
  | fuel + 1, f => do
    match ← peek? with
    | none | some '\x7d' | some '#' => return f
    | some c =>
      if c.isDigit then
        let first ← number
        if f.first.isSome then wrong "multiple number options to \x60s' command"
        if first = 0 then wrong "number option to \x60s' command may not be zero"
        return ← flags fuel { f with first := some first }
      skip
      if endsLine c ∨ c = ';' then return f
      match c with
      | ' ' => flags fuel f
      | 'i' | 'I' => flags fuel { f with foldsCase := true }
      | 'm' | 'M' => flags fuel { f with byLines := true }
      | 'e' => flags fuel f
      | 'p' =>
        if f.prints then wrong "multiple \x60p' options to \x60s' command"
        flags fuel { f with prints := true }
      | 'g' =>
        if f.everywhere then wrong "multiple \x60g' options to \x60s' command"
        flags fuel { f with everywhere := true }
      | 'w' => return { f with file := some (← outputName) }
      | _ => wrong "unknown option to \x60s'"

/-- Takes a substitution, behind its letter. -/
def substitution : Step Substitution := do
  let failure := "unterminated \x60s' command"
  let mark ← delimiter failure
  let pattern ← upTo mark true failure
  let parts := replacement (← upTo mark false failure)
  let f ← flags ((← get).rest.length + 1) {}
  let s ← sought pattern f.foldsCase f.byLines
  if let .pattern e _ := s then
    let missing := parts.find? fun part => part.group.any (e.groupCount < ·)
    if let some part := missing then
      wrong ("invalid reference \\" ++ toString (part.group.getD 0) ++
        " on \x60s' command's RHS")
  return { sought := s, parts, everywhere := f.everywhere, first := f.first.getD 1
           prints := f.prints, file := f.file }

/-- The characters of a list of letters to be exchanged. -/
def letterList : List Piece → List Piece
  | [] => []
  | [p] => [p]
  | .char '\\' :: .char 'n' :: rest => .char '\n' :: letterList rest
  | .char '\\' :: p :: rest => p :: letterList rest
  | p :: rest => p :: letterList rest

/-- Takes lists of letters to be exchanged. -/
def letterPairs : Step (List (Piece × Piece)) := do
  let failure := "unterminated \x60y' command"
  let mark ← delimiter failure
  let first ← upTo mark false failure
  let second ← upTo mark false failure
  let read (text : List Char) : List Piece :=
    letterList (Octets.pieces (String.ofList (unescapeReplacement (text.length + 1) text)))
  let (first, second) := (read first, read second)
  if first.length ≠ second.length then wrong "strings for \x60y' command are different lengths"
  commandEnd
  return first.zip second

/-! ## Commands -/

/-- The version of which scripts can ask whether it is reached. -/
def version : List Nat := [4, 9]

/-- Whether a version is at most the own one. -/
def isReached (text : String) : Bool :=
  let numbers := (text.splitOn ".").map fun part => (part.toNat?).getD 0
  !version.lex numbers

/-- Takes a number that a command may have, up to the end of the command. -/
def ownNumber? : Step (Option Nat) := do
  skipWhile isBlank
  let isGiven := (← peek?).any Char.isDigit
  let n ← number
  commandEnd
  return if isGiven then some n else none

/-- Takes the rest of a command with a letter. -/
def action (c : Char) (hasAddress hasRange : Bool) : Step (Option Action) := do
  let simple (a : Action) : Step (Option Action) := do
    commandEnd
    return some a
  let jump (a : Option String → Action) : Step (Option Action) := do
    let name ← label
    return some (a (if name = "" then none else some name))
  match c with
  | '\x7b' => return some (.open 0)
  | '\x7d' =>
    if (← get).blocks = [] then wrong "unexpected \x60\x7d'"
    if hasAddress then wrong "\x60\x7d' doesn't want any addresses"
    simple .close
  | ':' =>
    if hasAddress then wrong ": doesn't want any addresses"
    let name ← label
    if name = "" then wrong "\":\" lacks a label"
    return some (.mark name)
  | 'b' => jump .jump
  | 't' => jump .jumpIf
  | 'T' => jump .jumpUnless
  | 'a' => return some (.append (← text))
  | 'i' => return some (.insert (← text))
  | 'c' => return some (.change (← text))
  | 'd' => simple .delete
  | 'D' => simple .deleteFirst
  | 'p' => simple .print
  | 'P' => simple .printFirst
  | 'n' => simple .next
  | 'N' => simple .appendNext
  | 'g' => simple .get
  | 'G' => simple .appendHeld
  | 'h' => simple .hold
  | 'H' => simple .appendToHeld
  | 'x' => simple .exchange
  | 'z' => simple .empty
  | '=' => simple .number
  | 'F' => simple .name
  | 'l' => return some (.list (← ownNumber?))
  | 'q' | 'Q' =>
    if hasRange then wrong "command only uses one address"
    return some (.quit ((← ownNumber?).getD 0) (c = 'Q'))
  | 'r' => return some (.readFile (← fileName))
  | 'R' => return some (.readLine (← fileName))
  | 'w' => return some (.writeLine (← outputName))
  | 'W' => return some (.writeFirst (← outputName))
  | 's' => return some (.substitute (← substitution))
  | 'y' => return some (.exchangeLetters (← letterPairs))
  | 'v' =>
    if !isReached (← label) then wrong "expected newer version of sed"
    return none
  | _ => wrong (s!"unknown command: " ++ "\x60" ++ c.toString ++ "'")

/-- Takes the addresses of a command. -/
def addresses : Step (Option (Address × Option Reach)) := do
  match ← address? with
  | none => return none
  | some first => do
    skipWhile isBlank
    if (← peek?) = some ',' then
      skip
      let second ← reach
      skipWhile isBlank
      return some (first, some second)
    else return some (first, none)

/-- Whether addresses begin before the first line in a way that has no meaning. -/
def startsWrongly : Option (Address × Option Reach) → Bool
  | some (.line 0, some (.fitting _)) => false
  | some (.line 0, _) => true
  | _ => false

/-- Adds a command to those that have been read. -/
def add (command : Command) : Step Unit := modify fun r =>
  let place := r.commands.size
  match command.action, r.blocks with
  | .open _, blocks =>
    { r with commands := r.commands.push command, blocks := (place, r.position) :: blocks }
  | .close, (start, _) :: blocks =>
    let commands := r.commands.modify start ({ · with action := .open (place + 1) })
    { r with commands := commands.push command, blocks }
  | _, _ => { r with commands := r.commands.push command }

/-- Takes the commands up to the end of the script. -/
def commands : Nat → Step Unit
  | 0 => return
  | fuel + 1 => do
    skipWhile fun c => isSpace c || c = ';' || c = chunkEnd
    if (← peek?).isNone then return
    let address ← addresses
    let negated := (← peek?) = some '!'
    if negated then
      skip
      skipWhile isBlank
      if (← peek?) = some '!' then
        skip
        wrong "multiple \x60!'s"
    match ← peek? with
    | none => wrong "missing command"
    | some c =>
      if c = chunkEnd then wrong "missing command"
      skip
      if startsWrongly address then wrong "invalid usage of line address 0"
      if c = '#' then
        if address.isSome then wrong "comments don't accept any addresses"
        skipWhile (!endsLine ·)
      else
        let hasRange := address.any (·.2.isSome)
        if let some action ← action c address.isSome hasRange then add { address, negated, action }
      commands fuel

/-! ## Scripts -/

/-- What is said about a place in a script, behind so many characters. With `whole`, only the piece
is told. -/
def placeText (whole : Bool) : (expressions : Nat) → (position : Nat) → List Chunk → String
  | _, _, [] => ""
  | expressions, position, chunk :: others =>
    let size := chunk.text.length
    let expressions := if chunk.file.isNone then expressions + 1 else expressions
    if position ≤ size ∨ others = [] then
      match chunk.file with
      | some name =>
        let line := (chunk.text.toList.take position).count '\n' + 1
        s!"file {name} line {line}: "
      | none =>
        let character := if whole then 0 else min position size
        s!"-e expression #{expressions}, char {character}: "
    else placeText whole expressions (position - size - 1) others

/-- A script that has been read, or what is wrong with it and the status for it. -/
structure Reading where
  /-- The files to which something can be written. -/
  files : List String
  /-- Whether the script begins by asking for silence. -/
  silent : Bool
  result : Except (String × Nat) Script

/-- Reads the pieces of a script. -/
def readScript (extended sandboxed : Bool) (chunks : List Chunk) : Reading :=
  let written := chunkEnd.toString.intercalate (chunks.map (·.text))
  let (found, r) := ((commands (written.length + 1)).run
    ({ rest := written.toList, extended, sandboxed } : Reader)).run
  let silent := written.startsWith "#n"
  let failed (position : Nat) (whole : Bool) (text : String) : Except (String × Nat) Script :=
    .error (placeText whole 0 position chunks ++ text, 1)
  let result : Except (String × Nat) Script :=
    match found, r.blocks with
    | .error (.here text), _ =>
      let passed := written.toList.take r.position
      let isPast := passed.getLast? = some chunkEnd
      failed (if isPast then r.position - 1 else r.position) false text
    | .error (.anywhere text), _ => .error (text, 4)
    | .ok (), (_, position) :: _ => failed position true "unmatched \x60\x7b'"
    | .ok (), [] =>
      let isMissing (label : String) : Bool := (r.commands.placeOf? label).isNone
      match r.commands.toList.findSome? fun c => c.action.aim?.filter isMissing with
      | some label => .error ("can't find label for jump to \x60" ++ label ++ "'", 4)
      | none => .ok r.commands
  { files := r.files, silent, result }

end Editing

end FileScript.Shell
