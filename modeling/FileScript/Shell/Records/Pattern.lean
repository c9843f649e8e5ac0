import FileScript.Shell.Format
import FileScript.Shell.LinePattern.Matching

/-!
# Patterns in programs for records

These patterns match bytes, and escape sequences may stand in them wherever a byte may. A sign that
cannot have its meaning stands for itself, or is a mistake.
-/

namespace FileScript.Shell

namespace Records

open Octets (Piece)
open LinePattern (Expression Member Kind)

/-- A byte as a character that belongs to no class unless the byte is a character by itself. -/
def pieceOf (c : Char) : Piece :=
  .char (if c.toNat < 128 then c else Char.ofNat (0x40000 + c.toNat))

/-- A text as patterns see it. -/
def piecesOf (text : String) : List Piece := text.toList.map pieceOf

/-- What is wrong with a pattern. -/
inductive PatternMistake where
  | operand
  | closing
  | kind
  | caret
  deriving DecidableEq, Repr, Inhabited

namespace PatternMistake

/-- What is said about a mistake. -/
def text : PatternMistake → String
  | operand => "missing operand"
  | closing => "missing ')'"
  | kind => "bad class -- [], [^] or ["
  | caret => "syntax error ^* or ^+"

end PatternMistake

/-! ## Escape sequences -/

/-- The byte that an escape sequence denotes, after its backslash, and what follows it, if it is
one. -/
def escape? (text : List Char) : Option (Char × List Char) :=
  match text with
  | 'x' :: rest =>
    let digits := (rest.take 2).takeWhile fun c => (Integer.digit? c).any (· < 16)
    if digits = [] then none
    else some (Char.ofNat (Integer.digits 16 digits).1, rest.drop digits.length)
  | c :: rest =>
    if Format.isOctal c then
      let digits := (text.take 3).takeWhile Format.isOctal
      some (Char.ofNat ((Integer.digits 8 digits).1 % 256), text.drop digits.length)
    else if c ∈ ['n', 't', 'f', 'b', 'r', 'a', 'v', '\\', '"'] then
      if c = '"' then some ('"', rest) else some (Format.escape text)
    else none
  | [] => none

/-- A text with its escape sequences replaced. What only looks like one is kept. -/
def unescapeWithin : Nat → List Char → List Char
  | 0, text => text
  | fuel + 1, '\\' :: rest =>
    match escape? rest with
    | some (c, after) => c :: unescapeWithin fuel after
    | none => '\\' :: unescapeWithin fuel rest
  | fuel + 1, c :: rest => c :: unescapeWithin fuel rest
  | _, [] => []

/-- A text with its escape sequences replaced. -/
def unescape (text : String) : String :=
  String.ofList (unescapeWithin (text.length + 1) text.toList)

/-- The byte behind a backslash in a pattern and what follows it. -/
def escapedByte (text : List Char) : Option (Char × List Char) :=
  (escape? text).or (match text with
    | c :: rest => some (c, rest)
    | [] => none)

/-! ## Classes -/

/-- A byte of a class, and what follows it. -/
def classByte (text : List Char) : Option (Char × List Char) :=
  match text with
  | '\\' :: rest => escapedByte rest
  | c :: rest => some (c, rest)
  | [] => none

/-- The range between two bytes. -/
def rangeOf (low high : Char) : Member :=
  match pieceOf low, pieceOf high with
  | .char a, .char b => .range a b
  | p, _ => .piece p

/-- The members of a class, up to the bracket that ends it. -/
def members : Nat → (isFirst : Bool) → List Char →
    Except PatternMistake (List Member × List Char)
  | 0, _, _ | _, _, [] => .error .kind
  | fuel + 1, isFirst, c :: rest => do
    let single (c : Char) (after : List Char) :
        Except PatternMistake (List Member × List Char) := do
      let (others, after) ← members fuel false after
      return (.piece (pieceOf c) :: others, after)
    if c = ']' ∧ !isFirst then return ([], rest)
    if c = '[' ∧ rest.head? = some ':' then
      let name := (rest.drop 1).takeWhile (· ≠ ':')
      match Kind.ofName? (String.ofList name), rest.drop (name.length + 1) with
      | some k, ':' :: ']' :: after =>
        let (others, after) ← members fuel false after
        return (.kind k :: others, after)
      | _, _ => throw .kind
    match classByte (c :: rest) with
    | none => throw .kind
    | some (low, '-' :: after) =>
      if after.head? = some ']' then single low ('-' :: after)
      else match classByte after with
        | none => throw .kind
        | some (high, later) =>
          if low ≤ high then
            let (others, after) ← members fuel false later
            return (rangeOf low high :: others, after)
          else single low ('-' :: after)
    | some (low, after) => single low after

/-- A class, after the bracket that begins it, and what follows it. -/
def classOf (text : List Char) : Except PatternMistake (Expression × List Char) := do
  let negated := text.head? = some '^'
  let (found, rest) ← members (text.length + 1) true (if negated then text.tail else text)
  return (.list negated found, rest)

/-! ## Repetitions -/

/-- What the signs for repetitions behind a pattern make of it. -/
def repeated : Nat → Expression → List Char → Except PatternMistake (Expression × List Char)
  | 0, e, text => .ok (e, text)
  | fuel + 1, e, text =>
    let isCaret := match e with
      | .anchor .textStart => true
      | _ => false
    match text with
    | '*' :: rest => if isCaret then .error .caret else repeated fuel (.times e 0 none) rest
    | '+' :: rest => if isCaret then .error .caret else repeated fuel (.times e 1 none) rest
    | '?' :: rest => repeated fuel (.times e 0 (some 1)) rest
    | _ => .ok (e, text)

/-! ## Patterns -/

mutual

/-- Reads choices, up to the end of the pattern or of a group. -/
def choices : Nat → (depth : Nat) → List Char → Except PatternMistake (Expression × List Char)
  | 0, _, _ => .error .operand
  | fuel + 1, depth, text => do
    let (first, rest) ← single fuel depth true text
    let (first, rest) ← following fuel depth first rest
    match rest with
    | '|' :: rest =>
      let (others, rest) ← choices fuel depth rest
      return (.either first others, rest)
    | _ => return (first, rest)

/-- Reads the patterns behind another one. -/
def following : Nat → (depth : Nat) → Expression → List Char →
    Except PatternMistake (Expression × List Char)
  | 0, _, first, text => .ok (first, text)
  | fuel + 1, depth, first, text => do
    let isOver := match text with
      | [] => true
      | c :: _ => c = '|' || (c = ')' && 0 < depth)
    if isOver then return (first, text)
    let (next, rest) ← single fuel depth false text
    let (others, rest) ← following fuel depth next rest
    return (.both first others, rest)

/-- Reads a pattern with the signs for its repetition. -/
def single : Nat → (depth : Nat) → (opening : Bool) → List Char →
    Except PatternMistake (Expression × List Char)
  | 0, _, _, _ => .error .operand
  | fuel + 1, depth, opening, text => do
    match text with
    | [] => throw (if 0 < depth then .closing else .operand)
    | c :: rest =>
      let simple (e : Expression) (rest : List Char) :
          Except PatternMistake (Expression × List Char) := repeated rest.length.succ e rest
      let itself : Except PatternMistake (Expression × List Char) :=
        simple (.piece (pieceOf c)) rest
      match c with
      | '.' => simple .any rest
      | '^' => simple (.anchor .textStart) rest
      | '$' => simple (.anchor .textEnd) rest
      | '[' =>
        let (e, rest) ← classOf rest
        simple e rest
      | '(' =>
        let (inner, after) ← choices fuel (depth + 1) rest
        match after with
        | ')' :: after => simple inner after
        | _ => throw .closing
      | '|' => throw .operand
      | ')' => if 0 < depth then throw .operand else itself
      | '*' | '+' | '?' => if opening && depth = 0 then throw .operand else itself
      | '\\' =>
        match escapedByte rest with
        | some (c, rest) => simple (.piece (pieceOf c)) rest
        | none => itself
      | _ => itself

end

/-- Reads a pattern. -/
def patternOf (text : String) : Except PatternMistake Expression := do
  if text = "" then return .empty
  let chars := text.toList
  let (e, _) ← choices (4 * chars.length + 4) 0 chars
  return e

/-- The pattern that takes just a text. -/
def literal (text : String) : Expression := .ofPieces (piecesOf text)

/-! ## Matches -/

/-- Whether a pattern fits somewhere in a text. -/
def fits (e : Expression) (text : String) : Bool := e.occursIn {} (piecesOf text)

/-- The first match of a pattern in a text: how many bytes come before it, and how many it has. -/
def firstMatch? (e : Expression) (text : String) : Option (Nat × Nat) :=
  (e.find? {} (.ofText (piecesOf text))).map fun m =>
    (m.start.index, m.stop.index - m.start.index)

/-- The matches of a pattern in a text: where they begin and end. -/
def matchesIn (e : Expression) (text : String) : List (Nat × Nat) :=
  (e.matchesIn {} (piecesOf text)).map fun m => (m.start.index, m.stop.index)

/-- The parts of a text between the matches of a pattern that are not empty. -/
def partsBetween (e : Expression) (text : String) : List String :=
  let chars := text.toList
  let bounds := (matchesIn e text).filter fun (a, b) => a < b
  let starts := 0 :: bounds.map (·.2)
  let stops := bounds.map (·.1) ++ [chars.length]
  (starts.zip stops).map fun (a, b) => String.ofList ((chars.take b).drop a)

end Records

end FileScript.Shell
