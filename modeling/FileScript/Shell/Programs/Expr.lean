import FileScript.Shell.LinePattern.Matching
import FileScript.Shell.LinePattern.Reader
import FileScript.Shell.Programs.Basic

/-!
# Expressions in words

A program that evaluates its words as an expression: with numbers, comparisons, matches of patterns
and parts of texts. What has no value of its own is not evaluated, so that nothing can fail in it.
-/

namespace FileScript.Shell

namespace Programs

open Effect
open Octets (Piece)

namespace Expr

/-- A value. -/
inductive Value where
  | number (n : Int)
  | text (s : String)
  deriving DecidableEq, Repr, Inhabited

namespace Value

/-- A value as a text. -/
def toText : Value → String
  | number n => toString n
  | text s => s

/-- The number that a text denotes, which has digits only and perhaps a minus sign. -/
def ofDigits? (s : String) : Option Int :=
  let (negative, digits) := match s.toList with
    | '-' :: rest => (true, rest)
    | all => (false, all)
  if digits ≠ [] ∧ digits.all Char.isDigit then
    let n : Int := (Integer.digits 10 digits).1
    some (if negative then -n else n)
  else none

/-- The number that a value denotes. -/
def toNumber? : Value → Option Int
  | number n => some n
  | text s => ofDigits? s

/-- Whether a value counts as false: it is empty or zero. -/
def isNull : Value → Bool
  | number n => n = 0
  | text s =>
    let digits := if s.startsWith "-" then s.toList.tail else s.toList
    s = "" || (digits ≠ [] && digits.all (· = '0'))

end Value

/-- The words that are left, and the word before them. -/
structure Words where
  before : String := ""
  rest : List String
  deriving Repr, Inhabited

/-- Steps of the evaluation. They fail with a message. -/
abbrev Step := StateT Words (Except String)

/-- Passes the next word if it is the given one. -/
def accepts (word : String) : Step Bool := do
  match (← get).rest with
  | next :: rest =>
    if next = word then
      set ({ before := next, rest } : Words)
      return true
    else return false
  | [] => return false

/-- Passes the next word if it is among the given ones. -/
def acceptsOne : List String → Step (Option String)
  | [] => return none
  | word :: others => do
    if ← accepts word then return some word
    acceptsOne others

/-- Takes the next word. -/
def take : Step String := do
  let words ← get
  match words.rest with
  | next :: rest =>
    set ({ before := next, rest } : Words)
    return next
  | [] => throw s!"syntax error: missing argument after {Quoting.value words.before}"

/-- The value of a match of a text with a pattern, at its beginning: what the first group has taken,
or the number of characters. -/
def matched (value pattern : Value) : Except String Value := do
  let dialect := { lenient := true, checksClasses := false }
  match LinePattern.read dialect (Octets.pieces pattern.toText) with
  | .error fault => throw fault.text
  | .ok (e, _) =>
    let start := LinePattern.Spot.ofText (Octets.pieces value.toText)
    let stops := LinePattern.ends {} e.looksBack e start
    let hasGroup := 0 < e.groupCount
    match LinePattern.longest? start stops with
    | none => return if hasGroup then .text "" else .number 0
    | some found =>
      return if hasGroup then .text (LinePattern.textOf (found.group 1))
        else .number found.text.length

/-- The place of the first character of a text that is in another one, or zero. -/
def indexOf (text chars : String) : Int :=
  let wanted := Octets.pieces chars
  match (Octets.pieces text).findIdx? wanted.contains with
  | some i => i + 1
  | none => 0

/-- A part of a text. -/
def part (text : String) (position length : Int) : String :=
  if position ≤ 0 ∨ length ≤ 0 then ""
  else LinePattern.textOf (((Octets.pieces text).drop (position - 1).toNat).take length.toNat)

/-- Compares two values, as numbers if both are. -/
def compared (operator : String) (a b : Value) : Bool :=
  let order := match Value.ofDigits? a.toText, Value.ofDigits? b.toText with
    | some m, some n => compare m n
    | _, _ => compare a.toText.toList b.toText.toList
  match operator with
  | "<" => order = .lt
  | "<=" => order ≠ .gt
  | "=" | "==" => order = .eq
  | "!=" => order ≠ .eq
  | ">=" => order ≠ .lt
  | _ => order = .gt

/-- Calculates with two values. -/
def calculated (operator : String) (a b : Value) : Except String Value := do
  match a.toNumber?, b.toNumber? with
  | some m, some n =>
    match operator with
    | "+" => return .number (m + n)
    | "-" => return .number (m - n)
    | "*" => return .number (m * n)
    | "/" => if n = 0 then throw "division by zero" else return .number (m.tdiv n)
    | _ => if n = 0 then throw "division by zero" else return .number (m.tmod n)
  | _, _ => throw "non-integer argument"

/-- How tightly the operators of a level bind, the loosest first. -/
inductive Level where
  | either
  | both
  | comparison
  | sum
  | product
  | matching
  deriving DecidableEq, Repr, Inhabited

namespace Level

/-- The operators of a level. -/
def operators : Level → List String
  | either => ["|"]
  | both => ["&"]
  | comparison => ["<", "<=", "=", "==", "!=", ">=", ">"]
  | sum => ["+", "-"]
  | product => ["*", "/", "%"]
  | matching => [":"]

/-- The next tighter level. -/
def next? : Level → Option Level
  | either => some both
  | both => some comparison
  | comparison => some sum
  | sum => some product
  | product => some matching
  | matching => none

/-- Whether the right side of an operator has a value that counts. -/
def reaches (level : Level) (active : Bool) (left : Value) : Bool :=
  match level with
  | either => active && left.isNull
  | both => active && !left.isNull
  | _ => active

/-- The value of an operator with its two sides. -/
def apply (level : Level) (operator : String) (active : Bool) (a b : Value) :
    Except String Value := do
  match level with
  | either => return if a.isNull then if b.isNull then .number 0 else b else a
  | both => return if a.isNull || b.isNull then .number 0 else a
  | _ =>
    if !active then return a
    match level with
    | comparison => return .number (if compared operator a b then 1 else 0)
    | matching => matched a b
    | _ => calculated operator a b

end Level

mutual

/-- Evaluates the operators of a level and of all tighter ones. -/
def evaluate : Nat → Level → (active : Bool) → Step Value
  | 0, _, _ => throw "syntax error"
  | fuel + 1, level, active => do
    let left ← match level.next? with
      | some level => evaluate fuel level active
      | none => prefixed fuel active
    operations fuel level active left

/-- Evaluates the operators of a level behind a value. -/
def operations : Nat → Level → (active : Bool) → Value → Step Value
  | 0, _, _, _ => throw "syntax error"
  | fuel + 1, level, active, left => do
    match ← acceptsOne level.operators with
    | none => return left
    | some operator =>
      let reaches := level.reaches active left
      let right ← match level.next? with
        | some level => evaluate fuel level reaches
        | none => prefixed fuel reaches
      operations fuel level active (← level.apply operator active left right)

/-- Evaluates functions of texts. -/
def prefixed : Nat → (active : Bool) → Step Value
  | 0, _ => throw "syntax error"
  | fuel + 1, active => do
    match ← acceptsOne ["+", "length", "match", "index", "substr"] with
    | none => simple fuel active
    | some "+" => return .text (← take)
    | some "length" =>
      return .number (Octets.pieces (← prefixed fuel active).toText).length
    | some "match" =>
      let left ← prefixed fuel active
      let right ← prefixed fuel active
      if active then matched left right else return left
    | some "index" =>
      let left ← prefixed fuel active
      return .number (indexOf left.toText (← prefixed fuel active).toText)
    | some _ =>
      let text ← prefixed fuel active
      let position ← prefixed fuel active
      let length ← prefixed fuel active
      match position.toNumber?, length.toNumber? with
      | some p, some n => return .text (part text.toText p n)
      | _, _ => return .text ""

/-- Evaluates a word or an expression in brackets. -/
def simple : Nat → (active : Bool) → Step Value
  | 0, _ => throw "syntax error"
  | fuel + 1, active => do
    if ← accepts "(" then
      let value ← evaluate fuel .either active
      let words ← get
      match words.rest with
      | [] => throw s!"syntax error: expecting ')' after {Quoting.value words.before}"
      | next :: _ =>
        if ← accepts ")" then return value
        throw s!"syntax error: expecting ')' instead of {Quoting.value next}"
    if ← accepts ")" then throw "syntax error: unexpected ')'"
    return .text (← take)

end

/-- The value of all words. -/
def value (words : List String) : Except String Value := do
  let (found, left) ← (evaluate (16 * words.length + 16) .either true).run { rest := words }
  match left.rest with
  | [] => return found
  | next :: _ => throw s!"syntax error: unexpected argument {Quoting.value next}"

end Expr

/-- Evaluates the words as an expression. -/
def expr (words : List String) : Effect Nat := do
  let words := if words.head? = some "--" then words.tail else words
  if words = [] then return ← lacksOperand 2
  if words = ["--help"] ∨ words = ["--version"] then return 0
  match Expr.value words with
  | .error text => refuse text 2
  | .ok found =>
    print (found.toText ++ "\n")
    return if found.isNull then 1 else 0

end Programs

end FileScript.Shell
