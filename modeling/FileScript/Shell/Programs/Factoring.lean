import FileScript.Shell.Factors
import FileScript.Shell.Programs.Size

/-!
# Numbers as products

Numbers stand among the words of a program, or in a text. Each is printed with its prime factors.
-/

namespace FileScript.Shell

namespace Programs

open Effect

/-- The number that a word denotes, which can have spaces and a plus before it. -/
def factorable? (word : String) : Option Nat :=
  let text := word.toList.dropWhile (· = ' ')
  let digits := if text.head? = some '+' then text.drop 1 else text
  if digits ≠ [] ∧ digits.all Char.isDigit then some (Integer.digits 10 digits).1 else none

/-- Prints a number with its factors, or tells what is wrong with it. -/
def printFactors (word : String) : Effect Nat := do
  match factorable? word with
  | none => refuse s!"{Quoting.value word} is not a valid positive integer"
  | some n =>
    print (s!"{n}:" ++ String.join ((Factors.ofNumber n).map fun p => s!" {p}") ++ "\n")
    return 0

/-- Prints numbers with their prime factors. -/
def factor (words : List String) : Effect Nat :=
  called [] words fun call => do
    if call.operands ≠ [] then return worst (← call.operands.mapM printFactors)
    match ← readFile "-" with
    | .error trouble => refuse s!"error reading input: {trouble.reason}"
    | .ok text =>
      let isGap (c : Char) : Bool := c = ' ' || c = '\t' || c = '\n'
      let runs := text.toList.splitBy fun a b => isGap a = isGap b
      let words := (runs.filter fun run => !run.any isGap).map String.ofList
      return worst (← words.mapM printFactors)

end Programs

end FileScript.Shell
