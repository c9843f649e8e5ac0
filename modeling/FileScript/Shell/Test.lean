import FileScript.Shell.Integer
import FileScript.Shell.State

/-!
# Tests

The conditions that the commands `test` and `[` decide: on texts, on numbers and on files, joined by
`-a`, `-o`, `!` and parentheses. A condition of up to four words is understood by their number
first.
-/

namespace FileScript.Shell.Test

/-- The kinds of operators. -/
inductive Kind where
  | unary
  | binary
  /-- Joins conditions. -/
  | joining
  | negation
  | parenthesis
  deriving DecidableEq, Repr, Inhabited

/-- The operators on one word. -/
def unaryOperators : List String :=
  ["-b", "-c", "-d", "-e", "-f", "-G", "-g", "-h", "-k", "-L", "-n", "-O", "-p", "-r", "-S", "-s",
    "-t", "-u", "-w", "-x", "-z"]

/-- The operators on two words. -/
def binaryOperators : List String :=
  ["=", "!=", "<", ">", "-eq", "-ne", "-ge", "-gt", "-le", "-lt", "-nt", "-ot", "-ef"]

/-- The kind of operator that a word can be. -/
def kind? (word : String) : Option Kind :=
  if word ∈ unaryOperators then some .unary
  else if word ∈ binaryOperators then some .binary
  else match word with
    | "-a" | "-o" => some .joining
    | "!" => some .negation
    | "(" | ")" => some .parenthesis
    | _ => none

/-- What the words at the beginning of a list can be: an operator, a plain word, or nothing. -/
inductive Lexeme where
  | operator (kind : Kind) (text : String)
  | operand
  | nothing
  deriving DecidableEq, Repr, Inhabited

/-- Whether what could be an operator on one word has to be a plain word: there is nothing to apply
it to, or it is the left side of an operator on two words. -/
def isOperand : List String → Bool
  | [] => true
  | [_] => false
  | next :: _ :: _ => kind? next = some .binary

/-- What the first of some words is. -/
def lexeme : List String → Lexeme
  | [] => .nothing
  | word :: rest =>
    match kind? word with
    | none => .operand
    | some .unary => if isOperand rest then .operand else .operator .unary word
    | some kind => if word = "(" ∧ rest = [] then .operand else .operator kind word

/-- A test that is being decided: the words that have not been passed. The first of them is the one
that is being looked at. -/
abbrev Step := StateT (List String) Effect

/-- Fails with a message, about a word or not. -/
def refuse {α : Type} (word reason : String) : Step α :=
  Effect.fail (if word = "" then reason else s!"{word}: {reason}")

/-- The number that a word denotes. -/
def numberOf (word : String) : Effect Int :=
  match Integer.ofText? word with
  | some n => return n
  | none => Effect.fail s!"Illegal number: {word}"

/-- Decides a condition on a file. All files can be read and written. -/
def fileTest (operator path : String) : Effect Bool := do
  if operator = "-h" ∨ operator = "-L" then
    match ← Effect.findEntry path with
    | .ok (_, .link _) => return true
    | _ => return false
  match ← Effect.find path with
  | .error _ => return false
  | .ok (place, item) =>
    let folder := (← Effect.shared).host.folder
    let mode := folder.modeOf place
    let details := folder.detailsOf place
    match operator, item with
    | "-e", _ | "-r", _ | "-w", _ => return true
    | "-O", _ => return details.owner = 0
    | "-G", _ => return details.group = 0
    | "-u", _ => return mode &&& 0o4000 ≠ 0
    | "-g", _ => return mode &&& 0o2000 ≠ 0
    | "-k", _ => return mode &&& 0o1000 ≠ 0
    | "-d", .directory | "-x", .directory | "-x", .executable => return true
    | "-x", _ => return mode &&& 0o111 ≠ 0
    | "-s", .directory | "-s", .executable => return true
    | "-f", .file _ | "-f", .executable => return true
    | "-s", .file bytes => return bytes.size > 0
    | "-c", .null | "-c", .endless | "-p", .input => return true
    | _, _ => return false

/-- Whether a file was changed after another one. -/
def isNewer (a b : String) : Effect Bool := do
  match ← Effect.find a, ← Effect.find b with
  | .ok (p, _), .ok (q, _) =>
    let folder := (← Effect.shared).host.folder
    return (folder.detailsOf q).time < (folder.detailsOf p).time
  | _, _ => return false

/-- Decides a condition on one word. -/
def unaryTest (operator word : String) : Effect Bool := do
  match operator with
  | "-z" => return word = ""
  | "-n" => return word ≠ ""
  | "-t" =>
    discard (numberOf word)
    return false
  | _ => fileTest operator word

/-- Decides a condition on two words. -/
def binaryTest (operator a b : String) : Effect Bool := do
  let compared (holds : Int → Int → Bool) : Effect Bool := do
    let x ← numberOf a
    return holds x (← numberOf b)
  match operator with
  | "=" => return a = b
  | "!=" => return a ≠ b
  | "<" => return a < b
  | ">" => return b < a
  | "-eq" => compared (· == ·)
  | "-ne" => compared (· != ·)
  | "-lt" => compared (· < ·)
  | "-le" => compared (· ≤ ·)
  | "-gt" => compared (· > ·)
  | "-ge" => compared (· ≥ ·)
  | "-ef" =>
    match ← Effect.find a, ← Effect.find b with
    | .ok (p, _), .ok (q, _) => return p = q
    | _, _ => return false
  | "-nt" => isNewer a b
  | "-ot" => isNewer b a
  | _ => return false

/-- Passes a word. -/
def advance : Step Unit := modify List.tail

/-- Decides the operator on two words that follows the word that is being looked at. -/
def binaryStep : Step Bool := do
  match ← get with
  | a :: operator :: b :: rest =>
    set (b :: rest)
    binaryTest operator a b
  | _ :: operator :: _ => refuse operator "argument expected"
  | _ => return false

mutual

/-- Decides conditions joined by `-o`. -/
def disjunction : Nat → Lexeme → Step Bool
  | 0, _ => return false
  | fuel + 1, first => do
    let left ← conjunction fuel first
    match lexeme (← get).tail with
    | .operator .joining "-o" =>
      modify (·.drop 2)
      let right ← disjunction fuel (lexeme (← get))
      return left || right
    | _ => return left

/-- Decides conditions joined by `-a`. -/
def conjunction : Nat → Lexeme → Step Bool
  | 0, _ => return false
  | fuel + 1, first => do
    let left ← negation fuel first
    match lexeme (← get).tail with
    | .operator .joining "-a" =>
      modify (·.drop 2)
      let right ← conjunction fuel (lexeme (← get))
      return left && right
    | _ => return left

/-- Decides a condition that can be negated. -/
def negation : Nat → Lexeme → Step Bool
  | 0, _ => return false
  | fuel + 1, first => do
    if first = .operator .negation "!" then
      let next := lexeme (← get).tail
      if next ≠ .nothing then advance
      return !(← negation fuel next)
    else primary fuel first

/-- Decides a condition that is not joined to another. -/
def primary : Nat → Lexeme → Step Bool
  | 0, _ => return false
  | fuel + 1, first => do
    match first with
    | .nothing => return false
    | .operator .parenthesis "(" =>
      advance
      let next := lexeme (← get)
      if next = .operator .parenthesis ")" then return false
      let inner ← disjunction fuel next
      advance
      if lexeme (← get) ≠ .operator .parenthesis ")" then refuse "" "closing paren expected"
      return inner
    | .operator .unary operator =>
      advance
      match ← get with
      | word :: _ => unaryTest operator word
      | [] => refuse operator "argument expected"
    | _ =>
      match lexeme (← get).tail with
      | .operator .binary _ => binaryStep
      | _ => return ((← get).headD "") ≠ ""

end

/-- Decides the condition that words make up, which can begin with an operand for sure. -/
def decideAll (words : List String) (first : Lexeme) : Effect Bool := do
  let whole : Step Bool := do
    let holds ← disjunction (8 * (words.length + 2)) first
    match ← get with
    | word :: _ :: _ => refuse word "unexpected operator"
    | _ => return holds
  return (← whole.run words).1

/-- Decides the condition that words make up, or its opposite. Three words with an operator between
two others are that operator's condition; else three or four words can be a condition in parentheses
or a negated one, whose negation counts once however often it is repeated. -/
def holds (negated : Bool) : List String → Effect Bool
  | [] => return negated
  | first :: rest => do
    let words := first :: rest
    let result ← match rest with
      | [operator, last] =>
        if kind? operator = some .binary then
          return (← decideAll words .operand) != negated
        else if first = "(" ∧ last = ")" then decideAll [operator] (lexeme [operator])
        else if first = "!" then return ← holds true rest
        else decideAll words (lexeme words)
      | [second, third, last] =>
        let inner := [second, third]
        if first = "(" ∧ last = ")" then decideAll inner (lexeme inner)
        else if first = "!" then return ← holds true rest
        else decideAll words (lexeme words)
      | _ => decideAll words (lexeme words)
    return result != negated

end FileScript.Shell.Test
