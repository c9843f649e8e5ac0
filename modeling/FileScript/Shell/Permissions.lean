/-!
# Permissions

The permissions of a file as nine bits: to read, to write and to execute, for its owner, its group
and others. They are changed by texts such as `u=rwx,go-w`, whose clauses say for whom something is
allowed, forbidden or set.
-/

namespace FileScript.Shell

namespace Permissions

/-- The bits of some of the people: `u` is the owner, `g` the group, `o` the others. -/
def ofPeople (letters : List Char) : Nat :=
  if letters = [] ∨ 'a' ∈ letters then 511
  else
    let part (c : Char) (bits : Nat) : Nat := if c ∈ letters then bits else 0
    part 'u' 448 + part 'g' 56 + part 'o' 7

/-- What a letter stands for, for all people: a permission, or those that some people have. -/
def ofLetter? (permissions : Nat) : Char → Option Nat
  | 'r' => some 292
  | 'w' => some 146
  | 'x' => some 73
  | 'X' => some (if permissions &&& 73 = 0 then 0 else 73)
  | 's' => some 0
  | 'u' => some (permissions / 64 * 73)
  | 'g' => some (permissions / 8 % 8 * 73)
  | 'o' => some (permissions % 8 * 73)
  | _ => none

/-- Bits without others. -/
def without (bits others : Nat) : Nat := bits ^^^ (bits &&& others)

/-- Changes `now` by one clause. What a letter stands for is seen in the permissions before any
change. -/
def byClause (before now : Nat) (isLast : Bool) (clause : List Char) : Option Nat := do
  let letters := clause.takeWhile (· ∈ ['u', 'g', 'o', 'a'])
  let people := ofPeople letters
  match clause.drop letters.length with
  | [] => if isLast then some now else none
  | operator :: rest =>
    guard (operator ∈ ['+', '-', '='])
    let step : Char × Nat → Char → Option (Char × Nat) := fun (operator, now) c =>
      if c ∈ ['+', '-'] then some (c, now)
      else if c = '=' then some (c, without now people)
      else (ofLetter? before c).map fun bits =>
        (operator, if operator = '-' then without now (bits &&& people)
          else now ||| (bits &&& people))
    let start := if operator = '=' then without now people else now
    return (← rest.foldlM step (operator, start)).2

/-- Changes permissions by the clauses of a text. -/
def change? (permissions : Nat) (text : String) : Option Nat :=
  let clauses := (text.splitOn ",").map String.toList
  let marked := clauses.zipIdx.map fun (clause, i) => (clause, i + 1 == clauses.length)
  marked.foldlM (fun now (clause, isLast) => byClause permissions now isLast clause) permissions

end Permissions

end FileScript.Shell
