import FileScript.Shell.Integer
import FileScript.Shell.State

/-!
# Calculations

Integer expressions, whose operators work on words of 64 bits and may read and assign variables.
What an operator leaves out of account (as the right side of `&&` after a zero) is read without
being carried out.
-/

namespace FileScript.Shell.Arithmetic

/-- A token of an expression. -/
inductive Token where
  | number (n : Int)
  | variable (name : String)
  | operator (text : String)
  /-- Something that has no meaning. -/
  | unknown
  deriving DecidableEq, Repr, Inhabited

/-- The operators, longer ones before those that they begin with. -/
def operators : List String :=
  ["<<=", ">>=", "<<", ">>", "<=", ">=", "==", "!=", "&&", "||", "*=", "/=", "%=", "+=", "-=", "&=",
    "^=", "|=", "<", ">", "=", "!", "&", "|", "*", "/", "%", "+", "-", "^", "~", "?", ":", "(", ")"]

/-- The tokens of an expression. -/
def tokens : Nat → List Char → List Token
  | 0, _ | _, [] => []
  | fuel + 1, c :: rest =>
    if c = ' ' ∨ c = '\t' ∨ c = '\n' then tokens fuel rest
    else if c.isDigit then
      match Integer.scan? 0 (c :: rest) with
      | some (n, rest) => .number (min n Integer.greatest) :: tokens fuel rest
      | none => [.unknown]
    else if Octets.isNameStart c then
      let (name, rest) := Octets.splitName (c :: rest)
      .variable (String.ofList name) :: tokens fuel rest
    else match operators.find? fun op => op.toList.isPrefixOf (c :: rest) with
      | some op => .operator op :: tokens fuel ((c :: rest).drop op.length)
      | none => [.unknown]

/-- How strongly a binary operator binds; a smaller number binds more strongly. -/
def rank? (op : String) : Option Nat :=
  match op with
  | "*" | "/" | "%" => some 0
  | "+" | "-" => some 1
  | "<<" | ">>" => some 2
  | "<" | "<=" | ">" | ">=" => some 3
  | "==" | "!=" => some 4
  | "&" => some 5
  | "^" => some 6
  | "|" => some 7
  | _ => none

/-- An expression that is being read and carried out. -/
structure Calculation where
  /-- The whole expression, for error messages. -/
  text : String
  rest : List Token

/-- Steps of a calculation. -/
abbrev Step := StateT Calculation Effect

/-- Fails with a message about the expression. -/
def fail {α : Type} (reason : String) : Step α := do
  Effect.fail s!"arithmetic expression: {reason}: \"{(← get).text}\""

/-- Passes a token. -/
def skip : Step Unit := modify fun c => { c with rest := c.rest.tail }

/-- Passes an operator if it comes next. -/
def accept (op : String) : Step Bool := do
  if (← get).rest.head? = some (.operator op) then
    skip
    return true
  else return false

/-- The number that a truth value is. -/
def ofBool (b : Bool) : Int := if b then 1 else 0

/-- The result of a binary operator. -/
def apply (op : String) (a b : Int) : Step Int :=
  match op with
  | "*" => return Integer.wrap (a * b)
  | "/" | "%" => do
    if b = 0 then fail "division by zero"
    return if op = "/" then Integer.quotient a b else Integer.remainder a b
  | "+" => return Integer.wrap (a + b)
  | "-" => return Integer.wrap (a - b)
  | "<<" => return Integer.shiftLeft a b
  | ">>" => return Integer.shiftRight a b
  | "<" => return ofBool (a < b)
  | "<=" => return ofBool (a ≤ b)
  | ">" => return ofBool (b < a)
  | ">=" => return ofBool (b ≤ a)
  | "==" => return ofBool (a = b)
  | "!=" => return ofBool (a ≠ b)
  | "&" => return (Integer.bits a &&& Integer.bits b).toInt
  | "^" => return (Integer.bits a ^^^ Integer.bits b).toInt
  | _ => return (Integer.bits a ||| Integer.bits b).toInt

/-- The value of a variable as a number. -/
def valueOf (name : String) : Step Int := do
  let text := (← Effect.lookup? name).getD ""
  match Integer.ofValue? text with
  | some n => return n
  | none => Effect.fail s!"Illegal number: {text}"

/-- The operator that an assignment carries out before it assigns; none for a plain assignment. -/
def assignment? (op : String) : Option (Option String) :=
  if op = "=" then some none
  else if op ∈ ["<<=", ">>=", "*=", "/=", "%=", "+=", "-=", "&=", "^=", "|="] then
    some (some (String.ofList op.toList.dropLast))
  else none

mutual

/-- Carries out an assignment, or what can stand for one. `idle` says that nothing is to be carried
out. -/
def assignment : Nat → Bool → Step Int
  | 0, _ => fail "expecting primary"
  | fuel + 1, idle => do
    match (← get).rest with
    | .variable name :: .operator op :: rest =>
      match assignment? op with
      | none => conditional fuel idle
      | some before =>
        modify ({ · with rest })
        let right ← assignment fuel idle
        if idle then return right
        let value ← match before with
          | none => pure right
          | some op => do apply op (← valueOf name) right
        Effect.assign name (toString value)
        return value
    | _ => conditional fuel idle

/-- Carries out a conditional expression. -/
def conditional : Nat → Bool → Step Int
  | 0, _ => fail "expecting primary"
  | fuel + 1, idle => do
    let test ← disjunction fuel idle
    if ← accept "?" then
      let first ← assignment fuel (idle || test = 0)
      unless ← accept ":" do fail "expecting ':'"
      let second ← conditional fuel (idle || test ≠ 0)
      return if test ≠ 0 then first else second
    else return test

/-- Carries out expressions joined by `||`. -/
def disjunction : Nat → Bool → Step Int
  | 0, _ => fail "expecting primary"
  | fuel + 1, idle => do
    let left ← conjunction fuel idle
    if ← accept "||" then
      let right ← disjunction fuel (idle || left ≠ 0)
      return ofBool (left ≠ 0 || right ≠ 0)
    else return left

/-- Carries out expressions joined by `&&`. -/
def conjunction : Nat → Bool → Step Int
  | 0, _ => fail "expecting primary"
  | fuel + 1, idle => do
    let left ← binary fuel idle 8 (← primary fuel idle)
    if ← accept "&&" then
      let right ← conjunction fuel (idle || left = 0)
      return ofBool (left ≠ 0 && right ≠ 0)
    else return left

/-- Carries out the binary operators after a left side that bind more strongly than a rank. -/
def binary : Nat → Bool → Nat → Int → Step Int
  | 0, _, _, _ => fail "expecting primary"
  | fuel + 1, idle, limit, left => do
    match (← get).rest with
    | .operator op :: rest =>
      match (rank? op).filter (· < limit) with
      | none => return left
      | some rank =>
        modify ({ · with rest })
        let right ← binary fuel idle rank (← primary fuel idle)
        binary fuel idle limit (← if idle then pure right else apply op left right)
    | _ => return left

/-- Carries out an expression without binary operators. -/
def primary : Nat → Bool → Step Int
  | 0, _ => fail "expecting primary"
  | fuel + 1, idle => do
    match (← get).rest with
    | .number n :: rest =>
      modify ({ · with rest })
      return n
    | .variable name :: rest =>
      let value ← if idle then pure 0 else valueOf name
      modify ({ · with rest })
      return value
    | .operator "(" :: rest =>
      modify ({ · with rest })
      let value ← assignment fuel idle
      unless ← accept ")" do fail "expecting ')'"
      return value
    | .operator "+" :: rest =>
      modify ({ · with rest })
      primary fuel idle
    | .operator "-" :: rest =>
      modify ({ · with rest })
      return Integer.wrap (-(← primary fuel idle))
    | .operator "!" :: rest =>
      modify ({ · with rest })
      return ofBool ((← primary fuel idle) = 0)
    | .operator "~" :: rest =>
      modify ({ · with rest })
      return -(← primary fuel idle) - 1
    | _ => fail "expecting primary"

end

/-- The value of an expression. -/
def evaluate (text : String) : Effect Int := do
  let found := tokens (text.length + 1) text.toList
  let whole : Step Int := do
    let value ← assignment (16 * (found.length + 2)) false
    if (← get).rest ≠ [] then fail "expecting EOF"
    return value
  return (← whole.run { text, rest := found }).1

end FileScript.Shell.Arithmetic
