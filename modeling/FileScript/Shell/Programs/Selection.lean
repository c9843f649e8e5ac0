import FileScript.Shell.LinePattern.Matching
import FileScript.Shell.LinePattern.Reader
import FileScript.Shell.Pattern
import FileScript.Shell.Programs.Making
import FileScript.Shell.Programs.Whole

/-!
# Lines that are looked for

A program that looks in texts for lines that fit patterns. It shows the lines, or only what fits in
them, or tells in which files they are. Lines around them can be shown too.
-/

namespace FileScript.Shell

namespace Programs

open Effect
open Octets (Piece)

namespace Selection

/-! ## What is looked for -/

/-- What lines are looked for. -/
structure Wanted where
  patterns : List LinePattern.Expression
  search : LinePattern.Search := {}
  /-- Whether what fits has to be made of whole words. -/
  wholeWords : Bool := false
  /-- Whether a line has to fit as a whole. -/
  wholeLines : Bool := false
  /-- Whether the lines are looked for in which nothing fits. -/
  inverted : Bool := false

namespace Wanted

/-- Whether what lies between two places counts. -/
def accepts (w : Wanted) (start stop : LinePattern.Spot) : Bool :=
  let isWord (p : Option Piece) : Bool := p.any LinePattern.isWordPiece
  (!w.wholeLines || (start.before.isNone && stop.rest.isEmpty)) &&
    (!w.wholeWords || (!isWord start.before && !isWord stop.rest.head?))

/-- The better one of two matches: the one that begins first, then the longest. -/
def better (a b : LinePattern.Match) : LinePattern.Match :=
  if b.start.index < a.start.index ∨
      b.start.index = a.start.index ∧ a.stop.index < b.stop.index then b
  else a

/-- The first match at a place or behind it. -/
def find? (w : Wanted) (s : LinePattern.Spot) : Option LinePattern.Match :=
  let found := w.patterns.filterMap fun e =>
    e.findFrom w.search w.accepts (s.rest.length + 1) s
  match found with
  | [] => none
  | first :: others => some (others.foldl better first)

/-- Whether a line is looked for. -/
def selects (w : Wanted) (line : List Piece) : Bool :=
  (w.find? (.ofText line)).isSome != w.inverted

/-- The parts of a line that fit, with the number of characters before each. Empty ones do not
count. -/
def parts (w : Wanted) : Nat → LinePattern.Spot → List (Nat × List Piece)
  | 0, _ => []
  | fuel + 1, s =>
    match w.find? s with
    | none => []
    | some found =>
      let stop := { found.stop with groups := [] }
      if found.text = [] then
        match stop.next? with
        | none => []
        | some (_, next) => w.parts fuel next
      else (found.start.index, found.text) :: w.parts fuel stop

end Wanted

/-! ## What is shown -/

/-- What is told about the lines that are looked for. -/
inductive Telling where
  | lines
  | parts
  | count
  /-- The names of the files in which there are such lines. -/
  | names
  /-- The names of the files in which there are none. -/
  | otherNames
  /-- Nothing but the status. -/
  | status
  deriving DecidableEq, Repr, Inhabited

/-- How texts that are not made of characters are treated. -/
inductive Binaries where
  | told
  | shown
  | skipped
  deriving DecidableEq, Repr, Inhabited

/-- How lines are shown. -/
structure Showing where
  telling : Telling := .lines
  named : Bool := false
  numbered : Bool := false
  offsets : Bool := false
  tabbed : Bool := false
  /-- Whether a name ends with a zero byte. -/
  zeroName : Bool := false
  /-- The end of a line. -/
  ending : Char := '\n'
  /-- How many lines before and behind are shown, if any are asked for. -/
  before : Option Nat := none
  behind : Option Nat := none
  /-- What is between groups of lines. -/
  separator : Option String := some "--"
  /-- How many lines are looked for at most. -/
  most : Option Nat := none
  binaries : Binaries := .told
  deriving Repr, Inhabited

/-- A line of a text. -/
structure Line where
  number : Nat
  offset : Nat
  text : String
  pieces : List Piece
  /-- Whether the line is looked for. -/
  selected : Bool
  deriving Repr, Inhabited

/-- The lines of a text. -/
def linesOf (w : Wanted) (ending : Char) (text : String) : List Line :=
  let step := fun (found : List Line × Nat × Nat) (part : String) =>
    let (done, number, offset) := found
    let pieces := Octets.pieces part
    let line : Line := { number, offset, text := part, pieces, selected := w.selects pieces }
    (line :: done, number + 1, offset + part.length + 1)
  ((partsOf ending text).foldl step ([], 1, 0)).1.reverse

/-- Only the first lines that are looked for count, if there is a limit. -/
def limitedTo : Option Nat → List Line → List Line
  | _, [] => []
  | none, lines => lines
  | some most, line :: rest =>
    if line.selected then
      { line with selected := most ≠ 0 } :: limitedTo (some (most - 1)) rest
    else line :: limitedTo (some most) rest

/-- For each line, whether one of so many lines before it is looked for. -/
def nearBehind (reach : Nat) : (left : Nat) → List Line → List Bool
  | _, [] => []
  | left, line :: rest =>
    (0 < left) :: nearBehind reach (if line.selected then reach else left - 1) rest

/-- The lines that are shown: those that are looked for and those near them. -/
def shownLines (s : Showing) (lines : List Line) : List Line :=
  let behind := nearBehind (s.behind.getD 0) 0 lines
  let before := (nearBehind (s.before.getD 0) 0 lines.reverse).reverse
  ((lines.zip (behind.zip before)).filter fun (line, near, far) =>
    line.selected || near || far).map (·.1)

/-- What stands before a line or a part of it. -/
def headOf (s : Showing) (name : String) (line : Line) (offset : Nat) (isEmpty : Bool) : String :=
  let mark := if line.selected then ":" else "-"
  let nameMark := if s.zeroName then "\x00" else mark
  let parts := (if s.named then name ++ nameMark else "") ++
    (if s.numbered then toString line.number ++ mark else "") ++
    (if s.offsets then toString offset ++ mark else "")
  parts ++ if s.tabbed ∧ parts ≠ "" ∧ !isEmpty then "\t" else ""

/-- Whether characters have bytes among them that belong to none. -/
def isBroken (pieces : List Piece) : Bool := pieces.any fun p =>
  match p with
  | .byte _ => true
  | .char _ => false

/-- What a line is shown as, and whether something in it cannot be shown. -/
def shownLine (w : Wanted) (s : Showing) (name : String) (line : Line) : String × Bool :=
  let hides (pieces : List Piece) : Bool := s.binaries ≠ .shown && isBroken pieces
  if s.telling = .parts then
    if line.selected = w.inverted then ("", false)
    else
      let parts := w.parts (line.pieces.length + 1) (.ofText line.pieces)
      let shown := parts.map fun (skipped, part) =>
        let offset := line.offset + (LinePattern.textOf (line.pieces.take skipped)).length
        if hides part then ("", true)
        else (headOf s name line offset false ++
          (LinePattern.textOf part).push s.ending, false)
      (String.join (shown.map (·.1)), shown.any (·.2))
  else if hides line.pieces then ("", true)
  else (headOf s name line line.offset (line.text = "") ++ line.text.push s.ending, false)

/-- The text of the lines that are shown. `last` is the number of the line before; `isFirst` says
whether nothing has been shown before. -/
def textOf (w : Wanted) (s : Showing) (name : String) :
    (isFirst : Bool) → (last : Option Nat) → List Line → String × Bool
  | _, _, [] => ("", false)
  | isFirst, last, line :: rest =>
    let isApart := (s.before.isSome || s.behind.isSome) && !isFirst &&
      last ≠ some (line.number - 1)
    let gap := if isApart then (s.separator.map (· ++ "\n")).getD "" else ""
    let (shown, hidden) := shownLine w s name line
    let (others, hiddenLater) := textOf w s name false (some line.number) rest
    (gap ++ shown ++ others, hidden || hiddenLater)

/-- What has been found in a text. -/
structure Finding where
  count : Nat
  output : String := ""
  /-- Whether something was found that cannot be shown. -/
  hidden : Bool := false
  /-- How much of the text was looked at. -/
  size : Nat
  deriving Repr, Inhabited

/-- Looks for lines in a text. `isFirst` says whether no lines have been found before. -/
def Finding.ofText (w : Wanted) (s : Showing) (name : String) (isFirst : Bool) (text : String) :
    Finding :=
  let holdsZero := s.ending ≠ '\x00' && s.binaries ≠ .shown && text.contains '\x00'
  if s.binaries = .skipped ∧ holdsZero then { count := 0, size := text.length }
  else
    let zapped := if holdsZero then text.map fun c => if c = '\x00' then s.ending else c else text
    let lines := limitedTo s.most (linesOf w s.ending zapped)
    let selected := lines.filter (·.selected)
    let isFull := s.most.any (· = selected.length)
    let last := selected.getLast?
    let size := match isFull, last with
      | true, some line => line.offset + line.text.length + 1
      | _, _ => text.length
    let found : Finding := { count := selected.length, size := min size text.length }
    match s.telling with
    | .lines | .parts =>
      if holdsZero then { found with hidden := selected ≠ [] }
      else
        let (output, hidden) := textOf w s name isFirst none (shownLines s lines)
        { found with output, hidden }
    | .count =>
      let mark := if s.zeroName then "\x00" else ":"
      { found with output := (if s.named then name ++ mark else "") ++ s!"{selected.length}\n" }
    | .names | .otherNames =>
      let ending := if s.zeroName then "\x00" else "\n"
      let isTold := (selected ≠ []) = (s.telling = .names)
      { found with output := if isTold then name ++ ending else "", size := text.length }
    | .status => { found with size := text.length }

/-! ## Words -/

/-- How patterns are written. -/
inductive Writing where
  | simple
  | extended
  | literal
  deriving DecidableEq, Repr, Inhabited

/-- The options. -/
def known : List Known :=
  [flag 'G' "basic-regexp", flag 'E' "extended-regexp", also "fixed-strings" "fixed-regexp",
    flag 'F' "fixed-strings", flag 'P' "perl-regexp", valued 'A' "after-context",
    valued 'B' "before-context", long "binary-files" .value, long "line-buffered",
    flag 'b' "byte-offset", valued 'C' "context", long "color" .ownValue,
    also "color" "colour" .ownValue, flag 'c' "count", valued 'D' "devices",
    valued 'd' "directories", long "exclude" .value, long "exclude-from" .value,
    long "exclude-dir" .value, valued 'f' "file", flag 'l' "files-with-matches",
    flag 'L' "files-without-match", long "group-separator" .value, long "include" .value,
    flag 'i' "ignore-case", { flag 'y' with key := "ignore-case" }, long "no-ignore-case",
    flag 'T' "initial-tab", long "label" .value, flag 'n' "line-number",
    flag 'x' "line-regexp", valued 'm' "max-count", flag 'h' "no-filename",
    long "no-group-separator", flag 's' "no-messages", flag 'Z' "null", flag 'z' "null-data",
    flag 'o' "only-matching", flag 'q' "quiet", flag 'r' "recursive",
    flag 'R' "dereference-recursive", valued 'e' "regexp", flag 'v' "invert-match",
    also "quiet" "silent", flag 'a' "text", flag 'U' "binary", flag 'u' "unix-byte-offsets",
    flag 'V' "version", flag 'H' "with-filename", flag 'w' "word-regexp", flag 'I'] ++
  flags "0123456789"

/-- Ends the program as it was called in a wrong way. -/
def wrongUse (text : String) : Effect Nat := do
  if text ≠ "" then tell text
  complain ("Usage: grep [OPTION]... PATTERNS [FILE]...\n" ++
    "Try 'grep --help' for more information.\n")
  return 2

/-- The lines around that an option asks for. -/
def contextOf (word : String) : Except String Nat :=
  match sizeOf "" word with
  | .ok n => if n < 0 then .error s!"{word}: invalid context length argument" else .ok n.toNat
  | .error .tooLarge => .ok greatestCount
  | .error .malformed => .error s!"{word}: invalid context length argument"

/-- The greatest number of lines that an option asks for. A negative one is no limit. -/
def mostOf (word : String) : Except String (Option Nat) :=
  match sizeOf "" word with
  | .ok n => .ok (if n < 0 then none else some n.toNat)
  | .error .tooLarge => .ok none
  | .error .malformed => .error "invalid max count"

/-- How patterns are written, as the options say. -/
def writingOf (call : Call) : Except String Writing :=
  let keys := ["extended-regexp", "fixed-strings", "basic-regexp", "perl-regexp"]
  let found := (call.options.map (·.1)).filter (· ∈ keys)
  if found.any (· ≠ found.headD "") then .error "conflicting matchers specified"
  else .ok <| match found.head? with
    | some "extended-regexp" | some "perl-regexp" => .extended
    | some "fixed-strings" => .literal
    | _ => .simple

/-- How lines are shown, as the options say. -/
def showingOf (call : Call) : Except String Showing := do
  let digits := call.options.filter fun (key, _) => key.length = 1 && key.all Char.isDigit
  let number : Option Nat :=
    if digits = [] then none else (String.join (digits.map (·.1))).toNat?
  let size (key : String) : Except String (Option Nat) :=
    match call.value? key with
    | none => .ok none
    | some word => return some (← contextOf word)
  let around := (← size "context").or number
  let most ← match call.value? "max-count" with
    | none => pure none
    | some word => mostOf word
  let binaries ← match call.last? ["text", "binary-files", "I"] with
    | some "text" => pure .shown
    | some "I" => pure .skipped
    | some _ =>
      match call.value? "binary-files" with
      | some "binary" => pure Binaries.told
      | some "text" => pure Binaries.shown
      | some "without-match" => pure Binaries.skipped
      | _ => throw "unknown binary-files type"
    | none => pure .told
  let telling : Telling :=
    if call.has "quiet" then .status
    else match call.last? ["files-without-match", "files-with-matches"] with
      | some "files-with-matches" => .names
      | some _ => .otherNames
      | none =>
        if call.has "count" then .count else if call.has "only-matching" then .parts else .lines
  let behind := (← size "after-context").or around
  let before := (← size "before-context").or around
  let separator :=
    match (call.options.filter (·.1 ∈ ["group-separator", "no-group-separator"])).getLast? with
    | some ("group-separator", word) => some word
    | some _ => none
    | none => some "--"
  return {
    telling, most, binaries, behind, before, separator
    numbered := call.has "line-number", offsets := call.has "byte-offset"
    tabbed := call.has "initial-tab", zeroName := call.has "null"
    ending := if call.has "null-data" then '\x00' else '\n' }

/-- The pattern that a line of the written patterns denotes, and the signs in it that have no
meaning. -/
def patternOf (writing : Writing) (text : String) :
    Except String (LinePattern.Expression × List String) :=
  let pieces := Octets.pieces text
  match writing with
  | .literal => .ok (.ofPieces pieces, [])
  | _ =>
    let d : LinePattern.Dialect := { extended := writing = .extended, lenient := true }
    match LinePattern.read d pieces with
    | .ok found => .ok found
    | .error fault => .error fault.text

/-- The lines of the written patterns, in options or in the first operand. -/
def writtenPatterns (call : Call) : Effect (Except String (List String × List String)) := do
  let given := call.options.filter fun (key, _) => key = "regexp" ∨ key = "file"
  if given = [] then
    match call.operands with
    | [] => return .error ""
    | first :: others => return .ok (first.splitOn "\n", others)
  else
    let found ← given.mapM fun (key, word) => do
      if key = "regexp" then return Except.ok (word.splitOn "\n")
      else
        match ← readFile word with
        | .ok text => return .ok (partsOf '\n' text)
        | .error trouble => return .error s!"{word}: {trouble.reason}"
    match found.mapM id with
    | .ok lines => return .ok (lines.flatten, call.operands)
    | .error text => return .error text

/-! ## Files -/

/-- Which files are looked at. -/
structure Choice where
  recursive : Bool := false
  /-- Whether links to directories are followed too. -/
  throughLinks : Bool := false
  skipsDirectories : Bool := false
  included : List String := []
  excluded : List String := []
  excludedDirectories : List String := []
  deriving Repr, Inhabited

/-- Whether a name fits a pattern for names. -/
def nameFits (name pattern : String) : Bool :=
  Pattern.fits (Pattern.ofText (Octets.toString pattern)) (Octets.toString name).toList

/-- Whether a path or a part at its end fits a pattern for names. -/
def pathFits (path pattern : String) : Bool :=
  let parts := path.splitOn "/"
  (List.range parts.length).any fun n => nameFits ("/".intercalate (parts.drop n)) pattern

namespace Choice

/-- The choice that the options make. -/
def ofCall (call : Call) : Except String Choice := do
  let recursion := (call.options.filter fun (key, _) =>
    key ∈ ["recursive", "dereference-recursive", "directories"]).getLast?
  let action ← match recursion with
    | some ("directories", word) => chosen ["read", "recurse", "skip"] "--directories" word
    | some _ => pure "recurse"
    | none => pure "read"
  return {
    recursive := action = "recurse"
    skipsDirectories := action = "skip"
    throughLinks := call.last? ["recursive", "dereference-recursive"] =
      some "dereference-recursive"
    included := call.values "include", excluded := call.values "exclude"
    excludedDirectories := call.values "exclude-dir" }

/-- Whether a file is not looked at. `fits` compares its name with a pattern. -/
def skips (c : Choice) (fits : String → Bool) : Bool :=
  c.excluded.any fits || (c.included ≠ [] && !c.included.any fits)

/-- The files in a directory and below it. -/
def below (c : Choice) : Nat → String → Place → Effect (List String)
  | 0, _, _ => return []
  | fuel + 1, path, place => do
    let folder := (← shared).host.folder
    let found ← (folder.list place).mapM fun entry => do
      let name := Octets.ofString entry
      let separator := if path = "" ∨ path.endsWith "/" then "" else "/"
      let inner := path ++ separator ++ name
      let item := match folder.item? (place ++ [entry]), c.throughLinks with
        | some (.link _), false => none
        | _, _ => (folder.find place entry).toOption
      match item with
      | some (place, .directory) =>
        if c.excludedDirectories.any (nameFits name ·) then return []
        else c.below fuel inner place
      | some _ => return if c.skips (nameFits name ·) then [] else [inner]
      | none => return []
    return found.flatten

end Choice

/-- A file that is looked at, and whether it was found in a directory. -/
abbrev Source := String × Bool

/-- The files that operands stand for. -/
def sources (c : Choice) (operands : List String) : Effect (List Source) := do
  let implicit := operands = []
  let operands := if implicit then [if c.recursive then "." else "-"] else operands
  let found ← operands.mapM fun path => do
    match ← find path with
    | .ok (place, .directory) =>
      if path = "-" then return [(path, false)]
      else if c.skipsDirectories then return []
      else if !c.recursive then return [(path, false)]
      else if !implicit ∧ c.excludedDirectories.any (pathFits path ·) then return []
      else
        let shown := if implicit then "" else path
        return (← c.below (← directoryDepth) shown place).map (·, true)
    | _ => return if c.skips (pathFits path ·) then [] else [(path, false)]
  return found.flatten

/-! ## The search -/

/-- A search in files. -/
structure Job where
  wanted : Wanted
  showing : Showing
  /-- Whether names are shown; if nothing is said, they are when there are several files. -/
  named : Option Bool := none
  several : Bool := false
  label : String := "(standard input)"
  quiet : Bool := false

/-- Whether a path leads to the file to which the program prints. -/
def isOwnOutput (path : String) : Effect Bool := do
  match ← outputPlace?, ← find path with
  | some output, .ok (place, .file _) => return place = output
  | _, _ => return false

namespace Job

/-- The name under which a file is shown. -/
def nameOf (job : Job) (path : String) : String := if path = "-" then job.label else path

/-- Looks for lines in files. Yields whether some were found and whether something went wrong. -/
def run (job : Job) : (isFirst : Bool) → List Source → Effect (Bool × Bool)
  | _, [] => return (false, false)
  | isFirst, (path, isInner) :: rest => do
    let name := job.nameOf path
    let named := job.named.getD (job.several || isInner)
    let s := { job.showing with named }
    let showsLines := s.telling ∈ [.lines, .parts] && s.most.all (1 < ·)
    if showsLines && path ≠ "-" && (← isOwnOutput path) then
      if !job.quiet then tell s!"{name}: input file is also the output"
      let (found, _) ← job.run isFirst rest
      return (found, true)
    let look (text : String) : Finding := .ofText job.wanted s name isFirst text
    match ← readFile path fun text _ => (look text).size with
    | .ok text =>
      let found := look text
      print found.output
      if found.hidden then tell s!"{name}: binary file matches"
      if s.telling = .status ∧ found.count ≠ 0 then return (true, false)
      let (others, failed) ← job.run (isFirst && found.count = 0) rest
      return (found.count ≠ 0 || others, failed)
    | .error trouble =>
      if !job.quiet then tell s!"{name}: {trouble.reason}"
      let (found, _) ← job.run isFirst rest
      return (found, true)

end Job

/-- Looks for lines as a call says. -/
def act (call : Call) : Effect Nat := do
  let choice ← match Choice.ofCall call with
    | .error text => return ← wrongUse text
    | .ok choice => pure choice
  let (writing, showing) ← match writingOf call, showingOf call with
    | .error text, _ | _, .error text => return ← refuse text 2
    | .ok writing, .ok showing => pure (writing, showing)
  if (call.value? "devices").any fun word => word ∉ ["read", "skip"] then
    return ← refuse "unknown devices method" 2
  if call.has "unix-byte-offsets" then tell "warning: --unix-byte-offsets (-u) is obsolete"
  match ← writtenPatterns call with
  | .error text => if text = "" then wrongUse "" else refuse text 2
  | .ok (lines, operands) =>
    if showing.most = some 0 ∧ showing.telling ≠ .otherNames then return 1
    match lines.mapM (patternOf writing) with
    | .error text => refuse text 2
    | .ok patterns =>
      (patterns.flatMap (·.2)).forM fun sign =>
        tell s!"warning: {sign} at start of expression"
      let foldsCase := call.last? ["ignore-case", "no-ignore-case"] = some "ignore-case"
      let job : Job := {
        wanted := {
          patterns := patterns.map (·.1), inverted := call.has "invert-match"
          search := { foldsCase, byLines := call.has "null-data" }
          wholeWords := call.has "word-regexp" && !call.has "line-regexp"
          wholeLines := call.has "line-regexp" }
        showing
        named := (call.last? ["with-filename", "no-filename"]).map (· = "with-filename")
        several := 1 < operands.length
        label := (call.value? "label").getD "(standard input)"
        quiet := call.has "no-messages" }
      let (found, failed) ← job.run true (← sources choice operands)
      let isDone := found && (!failed || showing.telling = .status)
      return if isDone then 0 else if failed then 2 else 1

end Selection

/-- Looks for lines that fit patterns. -/
def grep (words : List String) : Effect Nat := do
  match Call.read Selection.known (← isOrdered) none words with
  | .error text => Selection.wrongUse text
  | .ok call =>
    if call.has "help" || call.has "version" then return 0 else Selection.act call

/-- Looks for lines with an option before all words, which says how patterns are written. -/
def grepWith (option : String) (words : List String) : Effect Nat := do
  modifySelf ({ · with name := "grep" })
  grep (option :: words)

end Programs

end FileScript.Shell
