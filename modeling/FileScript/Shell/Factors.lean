/-!
# Factors of numbers

A number is the product of primes. Small ones are found by trial. Others are found where two members of
a sequence agree modulo a prime, though not modulo the number itself.
-/

namespace FileScript.Shell.Factors

/-- The power of a number modulo another one. `fuel` bounds the binary digits of the exponent. -/
def powerMod (modulus : Nat) : (fuel : Nat) → (base exponent : Nat) → Nat
  | 0, _, _ => 1 % modulus
  | fuel + 1, base, exponent =>
    if exponent = 0 then 1 % modulus
    else
      let rest := powerMod modulus fuel (base * base % modulus) (exponent / 2)
      if exponent % 2 = 1 then base * rest % modulus else rest

/-- The primes that are tried as divisors, and as witnesses of products. -/
def smallPrimes : List Nat :=
  [2, 3, 5, 7, 11, 13, 17, 19, 23, 29, 31, 37, 41, 43, 47, 53, 59, 61, 67, 71, 73, 79, 83, 89, 97]

/-- Divides a number by two as long as it is even. The first number counts the divisions. -/
def halved : (fuel : Nat) → Nat → Nat × Nat
  | 0, n => (0, n)
  | fuel + 1, n =>
    if n % 2 = 0 ∧ n ≠ 0 then
      let (count, odd) := halved fuel (n / 2)
      (count + 1, odd)
    else (0, n)

/-- Whether one of some successive squares is the greatest remainder. -/
def reachesGreatest (n : Nat) : (count : Nat) → Nat → Bool
  | 0, _ => false
  | count + 1, x => x = n - 1 || reachesGreatest n count (x * x % n)

/-- Whether an odd number behaves as a prime does when a base is raised to powers modulo it. -/
def passes (n base : Nat) : Bool :=
  let (count, odd) := halved n.log2 (n - 1)
  let x := powerMod n (odd.log2 + 1) base odd
  x = 1 || reachesGreatest n count x

/-- Whether a number is taken for a prime. -/
def isPrime (n : Nat) : Bool :=
  if n < 2 then false
  else match smallPrimes.find? (n % · = 0) with
    | some p => n = p
    | none => n < 97 * 97 || smallPrimes.all (passes n)

/-- A divisor of a number other than one, from two members of a sequence of which one runs ahead. -/
def meeting (n step : Nat) : (fuel : Nat) → (slow fast : Nat) → Nat
  | 0, _, _ => n
  | fuel + 1, slow, fast =>
    let next (x : Nat) : Nat := (x * x + step) % n
    let slow := next slow
    let fast := next (next fast)
    let divisor := Nat.gcd (max slow fast - min slow fast) n
    if divisor = 1 then meeting n step fuel slow fast else divisor

/-- A divisor of a number between one and the number itself, if one is found. -/
def divisor? (n : Nat) : Option Nat :=
  (List.range 16).findSome? fun step =>
    let found := meeting n (step + 1) 1000000 2 2
    if 1 < found ∧ found < n then some found else none

/-- The primes of a number without small ones. -/
def large : (fuel : Nat) → Nat → List Nat
  | 0, n => [n]
  | fuel + 1, n =>
    if n ≤ 1 then []
    else if isPrime n then [n]
    else match divisor? n with
      | some d => large fuel d ++ large fuel (n / d)
      | none => [n]

/-- Takes a prime out of a number as often as it divides it. -/
def without (p : Nat) : (fuel : Nat) → Nat → List Nat × Nat
  | 0, n => ([], n)
  | fuel + 1, n =>
    if n % p = 0 ∧ n ≠ 0 then
      let (found, rest) := without p fuel (n / p)
      (p :: found, rest)
    else ([], n)

/-- The primes whose product a number is, in their order. Zero and one have none. -/
def ofNumber (n : Nat) : List Nat :=
  let (small, rest) := smallPrimes.foldl (fun (found, rest) p =>
    let (more, rest) := without p (rest.log2 + 1) rest
    (found ++ more, rest)) ([], n)
  small ++ (large (rest.log2 + 1) rest).mergeSort

end FileScript.Shell.Factors
