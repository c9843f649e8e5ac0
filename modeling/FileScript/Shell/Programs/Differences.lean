import FileScript.Shell.Difference.Printing
import FileScript.Shell.LinePattern.Matching
import FileScript.Shell.LinePattern.Reader
import FileScript.Shell.Programs.Copying
import FileScript.Shell.Programs.Size

/-!
# Programs that compare files

A program that tells where the bytes of two files differ, and one that shows how the lines of two files
differ, or the files of two directories.
-/

namespace FileScript.Shell

namespace Programs

open Effect
open Difference (Comparison)

/-- Ends a program that was called in a wrong way. -/
def mistaken (text : String) : Effect Nat := do
  tell text
  tell s!"Try '{(← self).name} --help' for more information."
  return 2

/-- Reads the words of a program that compares, and lets it act. -/
def calledToCompare (known : List Known) (words : List String) (act : Call → Effect Nat) :
    Effect Nat := do
  match Call.read known (← isOrdered) none words with
  | .ok call => if call.has "help" || call.has "version" then return 0 else act call
  | .error text => mistaken text

/-! ## Bytes -/

namespace Bytes

/-- How the bytes of two files are compared. -/
structure Style where
  paths : String × String
  /-- Whether all bytes are shown that differ. -/
  all : Bool
  /-- Whether bytes are shown as characters too. -/
  showsChars : Bool
  silent : Bool

/-- A byte as a character that can be seen. -/
def shownChar (c : Char) : String :=
  let low (c : Char) : String :=
    if c.toNat < 32 then "^" ++ (Char.ofNat (c.toNat + 64)).toString
    else if c.toNat = 127 then "^?"
    else c.toString
  if c.toNat < 128 then low c else "M-" ++ low (Char.ofNat (c.toNat - 128))

/-- A byte as a number. -/
def shownByte (c : Char) : String :=
  let digits := String.ofList (Nat.toDigits 8 c.toNat)
  "".pushn ' ' (3 - digits.length) ++ digits

/-- The bytes that differ in two texts, with their numbers; only as far as both texts go. -/
def differing (a b : List Char) : List (Nat × Char × Char) :=
  (a.zip b).zipIdx.filterMap fun ((x, y), i) => if x = y then none else some (i + 1, x, y)

/-- A line for each byte that differs. -/
def listing (s : Style) (width : Nat) (found : List (Nat × Char × Char)) : String :=
  String.join (found.map fun (number, x, y) =>
    let start := aligned width number ++ " "
    if s.showsChars then
      start ++ shownByte x ++ " " ++ padRight 4 (shownChar x) ++ " " ++ shownByte y ++ " " ++
        shownChar y ++ "\n"
    else start ++ shownByte x ++ " " ++ shownByte y ++ "\n")

/-- What is said of the first byte that differs. -/
def firstLine (s : Style) (text : List Char) (number : Nat) (x y : Char) : String :=
  let line := (text.take (number - 1)).count '\n' + 1
  let detail := if s.showsChars then
      s!" is {shownByte x} {shownChar x} {shownByte y} {shownChar y}"
    else ""
  s!"{s.paths.1} {s.paths.2} differ: byte {number}, line {line}" ++ detail ++ "\n"

/-- What is said of the shorter text when both are equal up to its end. -/
def endLine (s : Style) (path : String) (text : List Char) : String :=
  if text = [] then s!"EOF on {path} which is empty"
  else
    let lines := text.count '\n'
    let place :=
      if s.all then ""
      else if text.getLast? = some '\n' then s!", line {lines}"
      else s!", in line {lines + 1}"
    s!"EOF on {path} after byte {text.length}" ++ place

/-- Compares two texts. `width` is the width of the numbers of bytes. -/
def compare (s : Style) (width : Nat) (a b : List Char) : Effect Nat := do
  let found := differing a b
  if s.silent then return if a = b then 0 else 1
  match s.all, found with
  | false, (number, x, y) :: _ =>
    print (firstLine s a number x y)
    return 1
  | _, _ =>
    print (listing s width found)
    if a.length < b.length then tell (endLine s s.paths.1 a)
    if b.length < a.length then tell (endLine s s.paths.2 b)
    return if a = b then 0 else 1

/-- The units that numbers of bytes can have. -/
def units : String := "kKMGTPEZY"

/-- The number of bytes that a word denotes. -/
def count? (word : String) : Option Nat :=
  match sizeOf units word with
  | .ok n => if n < 0 then none else some n.toNat
  | .error .tooLarge => some greatestSize
  | .error .malformed => none

/-- The numbers of bytes that a word denotes for both files: two with a colon between them, or one. -/
def counts? (word : String) : Option (Nat × Nat) :=
  match word.splitOn ":" with
  | [both] => (count? both).map fun n => (n, n)
  | [first, second] => do return (← count? first, ← count? second)
  | _ => none

end Bytes

/-- The number of bytes in a regular file. -/
def regularSize? (path : String) : Effect (Option Nat) := do
  let folder := (← shared).host.folder
  let item ← if path = "-" then
      match ← streamAt? 0 with
      | some (_, { channel := .file place .., .. }) => pure (folder.item? place)
      | _ => pure none
    else pure ((← find path).toOption.map (·.2))
  match item with
  | some (.file bytes) => return some bytes.size
  | _ => return none

/-- The place of a file; it is the same for two paths of one file. -/
def samePlace (a b : String) : Effect Bool := do
  if a = "-" ∨ b = "-" then return a = b
  let folder := (← shared).host.folder
  match ← find a, ← find b with
  | .ok (x, _), .ok (y, _) => return folder.keptAt x = folder.keptAt y
  | _, _ => return false

/-- Compares two files byte by byte. -/
def cmp (words : List String) : Effect Nat :=
  let known := [flag 'b' "print-bytes", valued 'i' "ignore-initial", flag 'l' "verbose",
    valued 'n' "bytes", flag 's' "quiet", also "quiet" "silent", flag 'v' "version"]
  calledToCompare known words fun call => do
    let skips := call.operands.drop 2
    match call.values "ignore-initial" |>.find? fun word => (Bytes.counts? word).isNone with
    | some word => return ← mistaken s!"invalid --ignore-initial value '{word}'"
    | none => pure ()
    match call.values "bytes" |>.find? fun word => (Bytes.count? word).isNone with
    | some word => return ← mistaken s!"invalid --bytes value '{word}'"
    | none => pure ()
    if call.has "verbose" ∧ call.has "quiet" then
      return ← mistaken "options -l and -s are incompatible"
    if call.operands = [] then
      let last := (words.getLast?).getD "cmp"
      return ← mistaken s!"missing operand after '{last}'"
    match skips.find? fun word => (Bytes.count? word).isNone with
    | some word => return ← mistaken s!"invalid --ignore-initial value '{word}'"
    | none => pure ()
    if let some extra := call.operands[4]? then
      return ← mistaken s!"extra operand '{extra}'"
    let pathA := call.operands.headD "-"
    let pathB := call.operands.getD 1 "-"
    let initial := (call.values "ignore-initial").filterMap Bytes.counts?
    let ownSkip (i : Nat) : Nat := ((skips[i]?).bind Bytes.count?).getD 0
    let skipA := max (ownSkip 0) (total (initial.map (·.1)))
    let skipB := max (ownSkip 1) (total (initial.map (·.2)))
    let limit := ((call.values "bytes").filterMap Bytes.count?).foldl min greatestSize
    let silent := call.has "quiet"
    if skipA = skipB ∧ (← samePlace pathA pathB) then return 0
    let read (path : String) : Effect (Except Nat String) := do
      match ← readFile path with
      | .ok text => return .ok text
      | .error (.opening reason) =>
        unless silent do tell s!"{path}: {reason}"
        return .error 2
      | .error (.reading reason) =>
        tell s!"{path}: {reason}"
        return .error 2
    match ← read pathA with
    | .error status => return status
    | .ok a =>
      match ← read pathB with
      | .error status => return status
      | .ok b =>
        let s : Bytes.Style := {
          paths := (pathA, pathB), all := call.has "verbose"
          showsChars := call.has "print-bytes", silent }
        let sizes := [(← regularSize? pathA).map (· - skipA), (← regularSize? pathB).map (· - skipB)]
        let least := (sizes.filterMap id).foldl min (min limit greatestCount)
        let width := (toString least).length
        Bytes.compare s width ((a.toList.drop skipA).take limit) ((b.toList.drop skipB).take limit)

/-! ## Lines -/

namespace LineComparison

/-- How differences are shown. -/
inductive Style where
  | plain
  | brief
  | apart
  | unified
  | commands
  | forwardCommands
  | countedCommands
  | columns
  deriving DecidableEq, Repr, Inhabited

/-- Which blanks do not count when lines are compared. -/
inductive Blanks where
  | count
  /-- Those at the end of a line do not. -/
  | trailing
  /-- It does not matter how many there are in one place. -/
  | amount
  | ignored
  deriving DecidableEq, Repr, Inhabited

/-- How two files are compared. -/
structure Manner where
  style : Style := .plain
  context : Nat := 3
  blanks : Blanks := .count
  /-- Whether a tab counts as the spaces for which it stands. -/
  spreadsTabs : Bool := false
  folds : Bool := false
  /-- Whether changes of lines do not count if all of these are empty. -/
  skipsEmpty : Bool := false
  /-- Lines in which one of these occurs count as empty ones. -/
  skipped : List LinePattern.Expression := []
  minimal : Bool := false
  brief : Bool := false
  tellsEqual : Bool := false
  recursive : Bool := false
  /-- Whether a file that is missing counts as an empty one. -/
  absentIsEmpty : Bool := false
  /-- Whether all files are texts. -/
  allText : Bool := false
  dropsReturns : Bool := false
  labels : List String := []
  columns : Comparison.Columns := Comparison.Columns.ofWidth 130
  /-- Names of files that are left out. -/
  excluded : List String := []
  /-- The options as they stand in the words. -/
  switches : String := ""

/-- A line with spaces for its tabs. -/
def spread (line : List Char) : List Char :=
  (line.foldl (fun (column, found) c =>
    if c = '\t' then (column + 8 - column % 8, List.replicate (8 - column % 8) ' ' ++ found)
    else (column + 1, c :: found)) (0, ([] : List Char))).2.reverse

/-- A line with one space for all blanks in one place. -/
def squeezed (line : List Char) : List Char :=
  (line.splitBy fun a b => isBlank a = isBlank b).flatMap fun run =>
    if run.head?.any isBlank then [' '] else run

/-- A line without the blanks at its end. -/
def trimmed (line : List Char) : List Char := (line.reverse.dropWhile isBlank).reverse

namespace Manner

/-- What is compared of a line. -/
def key (m : Manner) (line : String) : String :=
  let line := line.toList
  let line := if m.folds then line.map Char.toLower else line
  let line := if m.spreadsTabs then spread line else line
  String.ofList <| match m.blanks with
    | .count => line
    | .trailing => trimmed line
    | .amount => squeezed (trimmed line)
    | .ignored => line.filter fun c => !isBlank c

/-- Whether a line counts as an empty one. -/
def isTrivial (m : Manner) (line : String) : Bool :=
  let text := if line.endsWith "\n" then (line.dropEnd 1).toString else line
  let isEmpty := if m.blanks = .count then text = "" else text.all isBlank
  m.skipsEmpty && isEmpty || m.skipped.any (·.occursIn {} (Octets.pieces text))

/-- Two texts with the changes between them. -/
def compare (m : Manner) (a b : String) : Comparison :=
  let first := wholeLines a
  let second := wholeLines b
  let horizon := if m.style = .apart ∨ m.style = .unified then m.context else 0
  { first := first.toArray, second := second.toArray
    script := Difference.script { horizon, minimal := m.minimal } first second m.key
    isTrivial := if m.skipsEmpty ∨ m.skipped ≠ [] then some m.isTrivial else none }

/-- The name of a file above hunks. -/
def heading (m : Manner) (mark : String) (index : Nat) (path : String) : String :=
  match m.labels[index]? with
  | some label => s!"{mark} {label}\n"
  | none => s!"{mark} {path}\t1970-01-01 00:00:00.000000000 +0000\n"

/-- The names of two files above hunks. -/
def headings (m : Manner) (first second pathA pathB : String) : String :=
  m.heading first 0 pathA ++ m.heading second 1 pathB

/-- The differences of two texts as they are shown. -/
def shown (m : Manner) (pathA pathB : String) (c : Comparison) : String :=
  match m.style with
  | .plain | .brief => c.plain
  | .apart => m.headings "***" "---" pathA pathB ++ c.apart m.context
  | .unified => m.headings "---" "+++" pathA pathB ++ c.unified m.context
  | .commands => c.commands
  | .forwardCommands => c.forwardCommands
  | .countedCommands => c.countedCommands
  | .columns => c.inColumns m.columns

/-- Compares two texts and shows how they differ. `title` stands before what is shown. -/
def report (m : Manner) (title pathA pathB a b : String) : Effect Nat := do
  let nameA := m.labels.getD 0 pathA
  let nameB := m.labels.getD 1 pathB
  let isBinary := !m.allText && (a.contains '\x00' || b.contains '\x00')
  let cleaned (text : String) : String := if m.dropsReturns then text.replace "\r\n" "\n" else text
  let a := cleaned a
  let b := cleaned b
  let isEqual : Effect Nat := do
    if m.tellsEqual then print s!"Files {nameA} and {nameB} are identical\n"
    return 0
  if isBinary then
    if a = b then isEqual
    else if m.brief then
      print s!"Files {nameA} and {nameB} differ\n"
      return 1
    else
      print s!"Binary files {nameA} and {nameB} differ\n"
      return 2
  else
    let isForEditor := m.style = .commands || m.style = .forwardCommands
    let isUnended (text : String) : Bool := isForEditor && text ≠ "" && !text.endsWith "\n"
    let ended (text : String) : String := if isUnended text then text.push '\n' else text
    let c := m.compare (ended a) (ended b)
    if m.brief then
      if !c.differs then isEqual
      else
        print s!"Files {nameA} and {nameB} differ\n"
        return 1
    else
      let differs := c.differs
      if differs ∨ m.style = .columns then print (title ++ m.shown pathA pathB c)
      let unended := [(nameA, a), (nameB, b)].filter fun (_, text) => isUnended text
      unended.forM fun (name, _) => tell s!"{name}: No newline at end of file\n"
      if unended ≠ [] then return 2
      if differs then return 1
      isEqual

end Manner

/-! ## Files and directories -/

/-- What is compared. -/
inductive Side where
  | text (text : String)
  | directory
  | missing (reason : String)
  deriving DecidableEq, Repr, Inhabited

/-- What there is at a path. -/
def sideAt (path : String) : Effect Side := do
  match ← readFile path with
  | .ok text => return .text text
  | .error (.opening reason) => return .missing reason
  | .error (.reading reason) =>
    return if reason = FolderError.isADirectory.text then .directory else .missing reason

/-- What a side is called. -/
def Side.kind : Side → String
  | .text "" => "regular empty file"
  | .text _ => "regular file"
  | .directory => "directory"
  | .missing _ => "missing file"

/-- The names in a directory. -/
def namesIn (path : String) : Effect (List String) := do
  match ← find path with
  | .ok (place, .directory) =>
    return ((← shared).host.folder.list place).map Octets.ofString
  | _ => return []

/-- The names of two lists, in order. -/
def allNames (a b : List String) : List String := (a ++ b).mergeSort (· ≤ ·) |>.eraseDups

/-- Compares what there is at two paths, where one of them may lead nowhere. `nested` says whether they
lie in directories that are compared. -/
def compareSides (m : Manner) (nested : Bool) : (fuel : Nat) → (pathA pathB : String) →
    (a b : Side) → Effect Nat
  | 0, _, _, _, _ => return 2
  | fuel + 1, pathA, pathB, a, b => do
    let title := if nested then s!"diff{m.switches} {pathA} {pathB}\n" else ""
    let walk : Effect Nat := do
      let namesA ← namesIn pathA
      let namesB ← namesIn pathB
      let isExcluded (name : String) : Bool :=
        m.excluded.any fun pattern => Pattern.fits (Pattern.ofText pattern) name.toList
      let names := (allNames namesA namesB).filter fun name => !isExcluded name
      let statuses ← names.mapM fun name => do
        let belowA := pathIn pathA name
        let belowB := pathIn pathB name
        let isInA := namesA.contains name
        let isInB := namesB.contains name
        if !m.absentIsEmpty ∧ !(isInA && isInB) then
          let directory := if isInA then pathA else pathB
          print s!"Only in {directory}: {name}\n"
          return 1
        compareSides m true fuel belowA belowB (← sideAt belowA) (← sideAt belowB)
      return worst statuses
    match a, b with
    | .directory, .directory =>
      if nested ∧ !m.recursive then
        print s!"Common subdirectories: {pathA} and {pathB}\n"
        return 0
      walk
    | .text x, .text y => m.report title pathA pathB x y
    | .text x, .missing reason =>
      if m.absentIsEmpty then m.report title pathA pathB x ""
      else refuse s!"{pathB}: {reason}" 2
    | .missing reason, .text y =>
      if m.absentIsEmpty then m.report title pathA pathB "" y
      else refuse s!"{pathA}: {reason}" 2
    | .missing x, .missing y =>
      tell s!"{pathA}: {x}"
      refuse s!"{pathB}: {y}" 2
    | .missing reason, .directory =>
      if m.absentIsEmpty ∧ nested then walk else refuse s!"{pathA}: {reason}" 2
    | .directory, .missing reason =>
      if m.absentIsEmpty ∧ nested then walk else refuse s!"{pathB}: {reason}" 2
    | .text _, .directory | .directory, .text _ =>
      print s!"File {pathA} is a {a.kind} while file {pathB} is a {b.kind}\n"
      return 1

/-- Compares what two words name. A file and a directory are compared by the file of the same name in
the directory. -/
def compareOperands (m : Manner) (pathA pathB : String) : Effect Nat := do
  let a ← sideAt pathA
  let b ← if pathA = pathB then pure a else sideAt pathB
  let fuel ← directoryDepth
  if a = .directory ∧ b = .directory ∧ (← samePlace pathA pathB) then return 0
  match a, b with
  | .text _, .directory =>
    if pathA = "-" then return ← refuse "cannot compare '-' to a directory" 2
    let inner := pathIn pathB (lastName pathA)
    compareSides m false fuel pathA inner a (← sideAt inner)
  | .directory, .text _ =>
    if pathB = "-" then return ← refuse "cannot compare '-' to a directory" 2
    let inner := pathIn pathA (lastName pathB)
    compareSides m false fuel inner pathB (← sideAt inner) b
  | _, _ => compareSides m false fuel pathA pathB a b

/-! ## Words -/

/-- The options. -/
def known : List Known :=
  flags "cuvh" ++
  [flag 'a' "text", flag 'b' "ignore-space-change", flag 'B' "ignore-blank-lines", valued 'C',
    long "context" .ownValue, flag 'd' "minimal", valued 'D' "ifdef", flag 'e' "ed",
    flag 'E' "ignore-tab-expansion", flag 'f' "forward-ed",
    valued 'F' "show-function-line", flag 'H' "speed-large-files", flag 'i' "ignore-case",
    valued 'I' "ignore-matching-lines", flag 'l' "paginate", valued 'L' "label", flag 'n' "rcs",
    flag 'N' "new-file", flag 'p' "show-c-function", flag 'P' "unidirectional-new-file",
    flag 'q' "brief", flag 'r' "recursive", flag 's' "report-identical-files",
    valued 'S' "starting-file", flag 't' "expand-tabs", flag 'T' "initial-tab", valued 'U',
    long "unified" .ownValue, flag 'w' "ignore-all-space", valued 'W' "width",
    valued 'x' "exclude", valued 'X' "exclude-from", flag 'y' "side-by-side",
    flag 'Z' "ignore-trailing-space", long "suppress-common-lines", long "left-column",
    long "normal", long "no-dereference", long "strip-trailing-cr", long "color" .ownValue,
    long "horizon-lines" .value, long "suppress-blank-empty", long "tabsize" .value,
    long "ignore-file-name-case", long "no-ignore-file-name-case"]

/-- The style that an option asks for. -/
def styleOf? (key : String) : Option Style :=
  match key with
  | "c" | "C" | "context" => some .apart
  | "u" | "U" | "unified" => some .unified
  | "ed" => some .commands
  | "forward-ed" => some .forwardCommands
  | "rcs" => some .countedCommands
  | "normal" => some .plain
  | "side-by-side" => some .columns
  | _ => none

/-- How many lines around changes an option asks for, if it does. -/
def contextOf (key word : String) : Except String (Option Nat) :=
  match key with
  | "c" | "u" => .ok (some 3)
  | "C" | "U" | "context" | "unified" =>
    if word = "" ∧ (key = "context" ∨ key = "unified") then .ok (some 3)
    else if word.toList.all Char.isDigit then .ok (some (word.toNat?.getD 0))
    else .error s!"invalid context length '{word}'"
  | _ => .ok none

/-- The patterns of lines that do not count. -/
def patternsOf (call : Call) : Except String (List LinePattern.Expression) :=
  (call.values "ignore-matching-lines").mapM fun word =>
    match LinePattern.read { lenient := true, checksClasses := false } (Octets.pieces word) with
    | .ok (e, _) => .ok e
    | .error fault => .error s!"{word}: {fault.text}"

/-- How a call asks to compare; or what is wrong with it. -/
def mannerOf (call : Call) (words : List String) : Except String Manner := do
  let styles := (call.options.filterMap fun (key, _) => styleOf? key).eraseDups
  let contexts ← call.options.filterMapM fun (key, word) => contextOf key word
  if styles.length > 1 then throw "conflicting output style options"
  let width ← match call.value? "width" with
    | none => pure 130
    | some word =>
      match word.toNat? with
      | some (n + 1) => pure (n + 1)
      | _ => throw s!"invalid width '{word}'"
  let blanks : Blanks :=
    if call.has "ignore-all-space" then .ignored
    else if call.has "ignore-space-change" then .amount
    else if call.has "ignore-trailing-space" then .trailing
    else .count
  let skipped ← patternsOf call
  let options := words.filter fun word => !call.operands.contains word
  return {
    style := styles.headD .plain, context := contexts.foldl max 0, blanks, skipped
    spreadsTabs := call.has "ignore-tab-expansion", folds := call.has "ignore-case"
    skipsEmpty := call.has "ignore-blank-lines", minimal := call.has "minimal"
    brief := call.has "brief", tellsEqual := call.has "report-identical-files"
    recursive := call.has "recursive", absentIsEmpty := call.has "new-file"
    allText := call.has "text", dropsReturns := call.has "strip-trailing-cr"
    labels := call.values "label", excluded := call.values "exclude"
    columns := { Comparison.Columns.ofWidth width with
      onlyChanges := call.has "suppress-common-lines", leftOnly := call.has "left-column" }
    switches := String.join (options.map (" " ++ ·)) }

end LineComparison

/-- Shows how two files differ. -/
def diff (words : List String) : Effect Nat :=
  calledToCompare LineComparison.known words fun call => do
    match LineComparison.mannerOf call words with
    | .error text => mistaken text
    | .ok m =>
      match call.operands with
      | [a, b] => LineComparison.compareOperands m a b
      | _ :: _ :: extra :: _ => mistaken s!"extra operand '{extra}'"
      | _ =>
        let last := (words.getLast?).getD "diff"
        mistaken s!"missing operand after '{last}'"

end Programs

end FileScript.Shell
