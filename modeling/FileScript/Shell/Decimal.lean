import FileScript.Shell.Integer
import FileScript.Shell.Octets

/-!
# Decimal fractions

Fractions are read as binary numbers with 53 digits, or with more if that is asked for, the nearest
there is, and are written with a given number of decimal digits, again the nearest there is. In a tie
the even digit wins.
-/

namespace FileScript.Shell

/-- A number that is a mantissa times a power of two. -/
structure Binary where
  negative : Bool := false
  mantissa : Nat := 0
  exponent : Int := 0
  /-- Whether the number is too large to be one. -/
  infinite : Bool := false
  /-- Whether this is no number at all. -/
  undefined : Bool := false
  /-- Whether the number stands for one that is too large, or too small for all its digits. -/
  rounded : Bool := false
  deriving Repr, Inhabited

/-- How many binary digits numbers have, and between which powers of two they lie. -/
structure Precision where
  digits : Nat := 53
  least : Int := -1074
  bound : Int := 1024
  deriving DecidableEq, Repr, Inhabited

/-- Numbers with 64 digits. -/
def Precision.extended : Precision := { digits := 64, least := -16445, bound := 16384 }

namespace Binary

/-- The natural number nearest to a fraction. -/
def nearest (numerator denominator : Nat) : Nat :=
  let q := numerator / denominator
  let r := numerator % denominator
  if 2 * r > denominator ∨ 2 * r = denominator ∧ q % 2 = 1 then q + 1 else q

/-- The fraction `n * b ^ e` as a numerator and a denominator. -/
def scaled (n base : Nat) (e : Int) : Nat × Nat :=
  if e ≥ 0 then (n * Nat.pow base e.toNat, 1) else (n, Nat.pow base (-e).toNat)

/-- The number nearest to a fraction. -/
def ofFraction (negative : Bool) (numerator denominator : Nat) (p : Precision := {}) : Binary :=
  if numerator = 0 then { negative }
  else
    let guess : Int := (numerator.log2 : Int) - denominator.log2 - p.digits
    let mantissaAt (e : Int) : Nat :=
      let (n, d) := scaled 1 2 (-e)
      nearest (numerator * n) (denominator * d)
    let exponent := max p.least (if mantissaAt guess < 1 <<< p.digits then guess else guess + 1)
    let mantissa := mantissaAt exponent
    if mantissa.log2 + exponent ≥ p.bound then { negative, infinite := true, rounded := true }
    else
      let (n, d) := scaled mantissa 2 exponent
      let rounded := mantissa < 1 <<< (p.digits - 1) && n * denominator ≠ numerator * d
      { negative, mantissa, exponent, rounded }

/-- The digits of a number with a point among them or not: what they denote without the point, how
many come after it, and what follows them. -/
def digits? (base : Nat) (text : List Char) : Option (Nat × Nat × List Char) :=
  let isDigit (c : Char) : Bool := ((Integer.digit? c).filter (· < base)).isSome
  let whole := text.takeWhile isDigit
  let (part, rest) := match text.drop whole.length with
    | '.' :: more => (more.takeWhile isDigit, more.dropWhile isDigit)
    | rest => ([], rest)
  if whole = [] ∧ part = [] then none
  else some ((Integer.digits base (whole ++ part)).1, part.length, rest)

/-- The exponent at the beginning of a text, after one of some marks, and what follows it. -/
def exponentOf (marks text : List Char) : Int × List Char :=
  match text with
  | mark :: rest =>
    let (negative, digits) := match rest with
      | '-' :: more => (true, more)
      | '+' :: more => (false, more)
      | _ => (false, rest)
    if mark ∈ marks ∧ (digits.head?.any Char.isDigit) then
      let (n, rest) := Integer.digits 10 digits
      let n := min n 20000
      (if negative then -n else n, rest)
    else (0, text)
  | [] => (0, [])

/-- What follows a word, in small or capital letters, at the beginning of a text. -/
def afterWord? (word : String) (text : List Char) : Option (List Char) :=
  if (text.take word.length).map Char.toLower = word.toList then some (text.drop word.length)
  else none

/-- What follows the word for no number, which can have letters in brackets after it. -/
def afterUndefined? (text : List Char) : Option (List Char) :=
  match afterWord? "nan" text with
  | some ('(' :: rest) =>
    match rest.dropWhile Octets.isNameChar with
    | ')' :: rest => some rest
    | _ => some ('(' :: rest)
  | found => found

/-- The number at the beginning of a text and what follows it, if there is one. -/
def scan? (text : List Char) (p : Precision := {}) : Option (Binary × List Char) :=
  let text := text.dropWhile isBlank
  let (negative, text) := match text with
    | '-' :: rest => (true, rest)
    | '+' :: rest => (false, rest)
    | _ => (false, text)
  match (afterWord? "infinity" text).or (afterWord? "inf" text), afterUndefined? text with
  | some rest, _ => some ({ negative, infinite := true }, rest)
  | none, some rest => some ({ negative, undefined := true }, rest)
  | none, none =>
    match (afterWord? "0x" text).bind (digits? 16) with
    | some (n, places, rest) =>
      let (power, rest) := exponentOf ['p', 'P'] rest
      let (numerator, denominator) := scaled n 2 (power - 4 * places)
      some (ofFraction negative numerator denominator p, rest)
    | none =>
      (digits? 10 text).map fun (n, places, rest) =>
        let (power, rest) := exponentOf ['e', 'E'] rest
        let (numerator, denominator) := scaled n 10 (power - places)
        (ofFraction negative numerator denominator p, rest)

/-- The size of a number as a fraction. -/
def fraction (b : Binary) : Nat × Nat := scaled b.mantissa 2 b.exponent

/-- A number that has at least so many digits. -/
def digitsOf (width n : Nat) : String :=
  let digits := toString n
  "".pushn '0' (width - digits.length) ++ digits

/-- A text with a point before its last characters. -/
def pointed (places : Nat) (keepsPoint : Bool) (digits : String) : String :=
  let chars := digits.toList
  let whole := String.ofList (chars.take (chars.length - places))
  if places = 0 then if keepsPoint then whole ++ "." else whole
  else whole ++ "." ++ String.ofList (chars.drop (chars.length - places))

/-- The size of a number with so many digits after the point. -/
def fixed (b : Binary) (places : Nat) (keepsPoint : Bool) : String :=
  let (n, d) := b.fraction
  pointed places keepsPoint (digitsOf (places + 1) (nearest (n * Nat.pow 10 places) d))

/-- The digits of the size of a number, one more than `places`, and the power of ten of the
first. -/
def significant (b : Binary) (places : Nat) : Nat × Int :=
  if b.mantissa = 0 then (0, 0)
  else
    let (n, d) := b.fraction
    let guess : Int := (n.log2 : Int) - d.log2
    let least := guess * 30103 / 100000 - 1
    let power := least + ((List.range 4).filter fun (i : Nat) =>
      let (tens, parts) := scaled 1 10 (least + 1 + (i : Int))
      tens * d ≤ n * parts).length
    let (tens, parts) := scaled 1 10 (places - power)
    let digits := nearest (n * tens) (d * parts)
    if digits ≥ Nat.pow 10 (places + 1) then (digits / 10, power + 1) else (digits, power)

/-- A power of ten as it is written after a number. -/
def exponentText (power : Int) : String :=
  (if power < 0 then "e-" else "e+") ++ digitsOf 2 power.natAbs

/-- The size of a number with one digit before the point and a power of ten. -/
def scientific (b : Binary) (places : Nat) (keepsPoint : Bool) : String :=
  let (digits, power) := b.significant places
  pointed places keepsPoint (digitsOf (places + 1) digits) ++ exponentText power

/-- A text without the zeros after its point. -/
def withoutZeros (text : String) : String :=
  if text.contains '.' then
    let chars := text.toList.reverse.dropWhile (· = '0')
    String.ofList (chars.dropWhile (· = '.')).reverse
  else text

/-- The size of a number with so many digits, in the shorter of the two ways to write it. -/
def general (b : Binary) (digits : Nat) (keepsZeros : Bool) : String :=
  let digits := max 1 digits
  let power := (b.significant (digits - 1)).2
  let tidy (text : String) : String := if keepsZeros then text else withoutZeros text
  if -4 ≤ power ∧ power < digits then tidy (b.fixed (digits - 1 - power).toNat keepsZeros)
  else
    let (found, power) := b.significant (digits - 1)
    tidy (pointed (digits - 1) keepsZeros (digitsOf digits found)) ++ exponentText power

/-- The size of a number with hexadecimal digits and a power of two. All digits are written if their
number is not given. The first digit has one binary digit, or four if all digits are to be full. -/
def hexadecimal (b : Binary) (places : Option Nat) (keepsPoint : Bool) (full : Bool := false) :
    String :=
  let lead : Int := if full then 3 else 0
  let isSmall := b.mantissa.log2 + b.exponent < -1022
  let power : Int :=
    if b.mantissa = 0 then 0
    else if isSmall ∧ !full then -1022
    else b.mantissa.log2 + b.exponent - lead
  let (n, d) := scaled b.mantissa 2 (b.exponent - power)
  let count := places.getD (if full then 15 else 13)
  let digits := Octets.padded (count + 1) (nearest (n * Nat.pow 16 count) d) 16
  let text := pointed count keepsPoint digits
  let short := withoutZeros text
  let text :=
    if places.isSome then text
    else if keepsPoint ∧ !short.contains '.' then short ++ "."
    else short
  text ++ (if power < 0 then "p-" else "p+") ++ toString power.natAbs

end Binary

end FileScript.Shell
