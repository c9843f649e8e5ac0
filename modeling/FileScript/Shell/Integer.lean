/-!
# Integers in shell texts

Numbers of 64 bits with a sign. Where a number is read, what exceeds the range counts as its end;
where one is calculated, it wraps around.
-/

namespace FileScript.Shell

/-- Whether a character is white space. -/
def isBlank (c : Char) : Bool := c ∈ [' ', '\t', '\n', '\x0b', '\x0c', '\r']

namespace Integer

/-- The smallest integer. -/
def least : Int := Int64.minValue.toInt

/-- The greatest integer. -/
def greatest : Int := Int64.maxValue.toInt

/-- Wraps a number around into the range. -/
def wrap (n : Int) : Int := n.bmod UInt64.size

/-- The number that a digit denotes in bases up to 36. -/
def digit? (c : Char) : Option Nat :=
  if c.isDigit then some (c.toNat - '0'.toNat)
  else if c.isAlpha then some (c.toLower.toNat - 'a'.toNat + 10)
  else none

/-- The number that the digits at the beginning of a text denote, and what follows them. -/
def digits (base : Nat) (text : List Char) : Nat × List Char :=
  go 0 text
where
  /-- Reads on after digits that denote a number. -/
  go (n : Nat) : List Char → Nat × List Char
    | [] => (n, [])
    | c :: rest =>
      match (digit? c).filter (· < base) with
      | some d => go (n * base + d) rest
      | none => (n, c :: rest)

/-- The number at the beginning of a text, after white space and a sign, and what follows it. There
is none without a digit. A base of zero lets the digits tell their base. -/
def scan? (base : Nat) (text : List Char) : Option (Int × List Char) :=
  let text := text.dropWhile isBlank
  let (negative, text) := match text with
    | '-' :: rest => (true, rest)
    | '+' :: rest => (false, rest)
    | _ => (false, text)
  let isDigit (base : Nat) (c : Char) : Bool := ((digit? c).filter (· < base)).isSome
  let based : Nat × List Char := match base, text with
    | 0, '0' :: x :: d :: rest =>
      if (x = 'x' ∨ x = 'X') ∧ isDigit 16 d then (16, d :: rest) else (8, text)
    | 0, '0' :: _ => (8, text)
    | 0, _ => (10, text)
    | base, _ => (base, text)
  match based.2 with
  | c :: _ =>
    if isDigit based.1 c then
      let (n, rest) := digits based.1 based.2
      some (if negative then -n else n, rest)
    else none
  | [] => none

/-- The number that a text denotes, with white space around it or without. -/
def ofText? (text : String) : Option Int :=
  match scan? 10 text.toList with
  | some (n, rest) => if rest.all isBlank ∧ least ≤ n ∧ n ≤ greatest then some n else none
  | none => none

/-- The number that the value of a variable denotes in a calculation. A blank one counts as 0. -/
def ofValue? (text : String) : Option Int :=
  match scan? 0 text.toList with
  | some (n, rest) => if rest.all isBlank ∧ least ≤ n ∧ n ≤ greatest then some n else none
  | none => if text.all isBlank then some 0 else none

/-- The quotient of two numbers, toward zero. -/
def quotient (a b : Int) : Int := wrap (a.tdiv b)

/-- The remainder that belongs to the quotient. -/
def remainder (a b : Int) : Int := a.tmod b

/-- The bits of a number. -/
def bits (n : Int) : BitVec 64 := BitVec.ofInt 64 n

/-- Shifts a number to the left; the amount counts modulo 64. -/
def shiftLeft (a b : Int) : Int := (bits a <<< (b % 64).toNat).toInt

/-- Shifts a number to the right and keeps its sign; the amount counts modulo 64. -/
def shiftRight (a b : Int) : Int := ((bits a).sshiftRight (b % 64).toNat).toInt

end Integer

end FileScript.Shell
