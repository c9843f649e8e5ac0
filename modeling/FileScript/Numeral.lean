/-!
# Numerals

Unsigned numbers as tokens of a statement and in printed lines. A written numeral has no sign and no
leading zero; a read one may have a leading `+` and any number of leading zeros.
-/

namespace FileScript.Numeral

/-- The digits of `n` in a base up to sixteen, letters in lower case. -/
def digits (base n : Nat) : String := String.ofList (Nat.toDigits base n)

/-- The digits of `n` in base eight. -/
def octal (n : Nat) : String := digits 8 n

/-- The digits of `n` in base sixteen, letters in lower case. -/
def hex (n : Nat) : String := digits 16 n

/-- The digits of `n` in base sixteen, letters in upper case. -/
def hexUpper (n : Nat) : String := String.ofList ((Nat.toDigits 16 n).map Char.toUpper)

/-- Whether a character is a digit of a base up to ten. -/
def isDigitOf (base : Nat) (c : Char) : Bool := '0' ≤ c && c.toNat < '0'.toNat + base

/-- The number that a token of digits, with or without a leading `+`, denotes in a base up to ten.
A token of any other form denotes none. -/
def value? (base : Nat) (token : String) : Option Nat :=
  let digits := match token.toList with
    | '+' :: rest => rest
    | cs => cs
  if digits ≠ [] ∧ digits.all (isDigitOf base) then some (Nat.ofDigitChars base digits 0) else none

/-- The number that a decimal token denotes, if 64 bits hold it. -/
def word? (token : String) : Option Nat :=
  (value? 10 token).filter (· < UInt64.size)

/-- The number that an octal token denotes, if it has at most twelve bits. -/
def mode? (token : String) : Option Nat :=
  (value? 8 token).filter (· ≤ 0o7777)

end FileScript.Numeral
