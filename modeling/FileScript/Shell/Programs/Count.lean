import FileScript.Shell.LinePattern.Syntax
import FileScript.Shell.Programs.Size
import FileScript.Unicode.Width

/-!
# Counting

How many lines, words, characters and bytes there are in texts, and how wide their lines are.
-/

namespace FileScript.Shell

namespace Programs

open Effect
open Octets (Piece)

/-- What is counted, in the order in which it is shown. -/
inductive Quantity where
  | lines
  | words
  | chars
  | bytes
  | width
  deriving DecidableEq, Repr, Inhabited

namespace Quantity

/-- The key of the option that asks for a quantity. -/
def key : Quantity → String
  | lines => "lines"
  | words => "words"
  | chars => "chars"
  | bytes => "bytes"
  | width => "max-line-length"

/-- All quantities. -/
def all : List Quantity := [lines, words, chars, bytes, width]

/-- The quantities that a call asks for. -/
def ofCall (call : Call) : List Quantity :=
  let found := all.filter fun q => call.has q.key
  if found = [] then [lines, words, bytes] else found

/-- Two counts of a quantity for two texts as one. -/
def join (q : Quantity) (a b : Nat) : Nat := if q = width then max a b else a + b

end Quantity

/-- Whether a character stands between words. -/
def isWordGap (c : Char) : Bool :=
  LinePattern.Kind.isSpace c || c ∈ ['\u00a0', '\u2007', '\u202f', '\u2060']

/-- The number of words in a text. Only characters that can be shown make up words. -/
def wordCount (pieces : List Piece) : Nat :=
  let step : Bool × Nat → Piece → Bool × Nat := fun (inWord, n) p =>
    match p with
    | .byte _ => (inWord, n)
    | .char c =>
      if isWordGap c then (false, n)
      else if Unicode.isPrintable c then (true, if inWord then n else n + 1)
      else (inWord, n)
  (pieces.foldl step (false, 0)).2

/-- The width of the widest line. -/
def widestLine (pieces : List Piece) : Nat :=
  let step : Nat × Nat → Piece → Nat × Nat := fun (column, widest) p =>
    match p with
    | .byte _ => (column, widest)
    | .char c =>
      if c ∈ ['\n', '\r', '\x0c'] then (0, max widest column)
      else if c = '\t' then (column + 8 - column % 8, widest)
      else (column + (Unicode.columns? c).getD 0, widest)
  let (column, widest) := pieces.foldl step (0, 0)
  max widest column

/-- How much of a quantity there is in a text. -/
def Quantity.count (text : String) (q : Quantity) : Nat :=
  match q with
  | lines => text.toList.count '\n'
  | words => wordCount (Octets.pieces text)
  | chars => ((Octets.pieces text).filter fun
      | .char _ => true
      | .byte _ => false).length
  | bytes => text.length
  | width => widestLine (Octets.pieces text)

/-- The size of a regular file, or none for what is not a file; there is neither if a path leads
nowhere. -/
def sizeAt (path : String) : Effect (Option (Option Nat)) := do
  let folder := (← shared).host.folder
  let item ← if path = "-" then
      match ← streamAt? 0 with
      | some (_, { channel := .file place .., .. }) => pure (folder.item? place)
      | some _ => return some none
      | none => return none
    else pure ((← find path).toOption.map (·.2))
  match item with
  | some (.file bytes) => return some (some bytes.size)
  | some _ => return some none
  | none => return none

/-- How wide numbers are printed: wide enough for the sizes of the files, and not less than seven
columns if a size is not known before. -/
def countWidth (paths : List String) (quantities : Nat) : Effect Nat := do
  if paths.length ≤ 1 ∧ quantities = 1 then return 1
  let sizes ← paths.mapM sizeAt
  if sizes.head? = some none then return 1
  let known := sizes.filterMap id
  let least := if known.any Option.isNone then 7 else 1
  return max least (toString (Programs.total (known.filterMap id))).length

/-- The options of `wc`. -/
def wcOptions : List Known :=
  [flag 'c' "bytes", flag 'm' "chars", flag 'l' "lines", flag 'w' "words",
    flag 'L' "max-line-length", long "files0-from" .value, long "total" .value]

/-- Prints the numbers of lines, words and bytes in texts. -/
def wc (words : List String) : Effect Nat :=
  called wcOptions words fun call => do
    let times := ["auto", "always", "only", "never"]
    let total ← match chosen times "--total" ((call.value? "total").getD "auto") with
      | .error text => return ← misused text
      | .ok word => pure word
    let quantities := Quantity.ofCall call
    let counts (text : String) : List Nat := quantities.map (Quantity.count text)
    let width ← if total = "only" then pure 1 else countWidth call.inputs quantities.length
    let line (name : List String) (numbers : List Nat) : String :=
      " ".intercalate (numbers.map (aligned width) ++ name) ++ "\n"
    let name (path : String) : List String :=
      if call.operands = [] then []
      else [if path.contains '\n' then Quoting.ifNeeded path else path]
    let report (path : String) (numbers : List Nat) : Effect Unit :=
      if total = "only" then return else print (line (name path) numbers)
    let found ← call.inputs.mapM fun path => do
      match ← readFile path with
      | .ok text =>
        report path (counts text)
        return (0, counts text)
      | .error trouble =>
        let shown := if path = "-" then described path else Quoting.ifNeeded path
        tell (if path = "" then "invalid zero-length file name" else s!"{shown}: {trouble.reason}")
        if let .reading _ := trouble then report path (counts "")
        return (1, counts "")
    let sum := (found.map (·.2)).foldl (fun a b =>
      (quantities.zip (a.zip b)).map fun (q, a, b) => q.join a b) (counts "")
    if total = "always" ∨ total = "only" ∨ (total = "auto" ∧ call.inputs.length > 1) then
      print (line (if total = "only" then [] else ["total"]) sum)
    checkInput "-: Bad file descriptor" call.inputs
    return worst (found.map (·.1))

end Programs

end FileScript.Shell
