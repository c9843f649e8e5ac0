import FileScript.Shell.Programs.Basic

/-!
# Modes of files

The mode of a file has twelve bits: three special ones, and nine that say who may read, write and
execute it. A word gives a mode as an octal number, or by clauses that change it.
-/

namespace FileScript.Shell

namespace Programs

/-- All bits of a mode. -/
def modeBits : Nat := 0o7777

/-- What a clause makes of the bits that it gives. -/
inductive ModeOperator where
  | add
  | remove
  | set
  deriving DecidableEq, Repr, Inhabited

/-- The bits that a clause gives. -/
inductive ModeValue where
  | bits (bits : Nat)
  /-- Bits, and the permission to execute if someone has it already or in a directory. -/
  | orExecute (bits : Nat)
  /-- The permissions that some people have. -/
  | copied (people : Nat)
  deriving DecidableEq, Repr, Inhabited

/-- A change of a mode. No people are given if it is for all that the mask leaves. -/
structure ModeChange where
  operator : ModeOperator
  people : Nat
  value : ModeValue
  deriving DecidableEq, Repr, Inhabited

/-- What a word makes of modes. -/
inductive ModeWord where
  | octal (mode : Nat) (keepsSpecial : Bool)
  | changes (changes : List ModeChange)
  deriving DecidableEq, Repr, Inhabited

namespace ModeChange

/-- The bits of people. -/
def peopleOf? : Char → Option Nat
  | 'u' => some 0o4700
  | 'g' => some 0o2070
  | 'o' => some 0o1007
  | 'a' => some modeBits
  | _ => none

/-- The operator that a sign stands for. -/
def operatorOf? : Char → Option ModeOperator
  | '+' => some .add
  | '-' => some .remove
  | '=' => some .set
  | _ => none

/-- The bits of a permission. -/
def bitsOf? : Char → Option Nat
  | 'r' => some 0o444
  | 'w' => some 0o222
  | 'x' => some 0o111
  | 's' => some 0o6000
  | 't' => some 0o1000
  | _ => none

/-- The value at the beginning of a text, and what follows it. -/
def valueOf (text : List Char) : Option (ModeValue × List Char) :=
  let digits := text.takeWhile fun c => '0' ≤ c && c ≤ '7'
  let copied : Option Nat := match text with
    | 'u' :: _ => some 0o700
    | 'g' :: _ => some 0o070
    | 'o' :: _ => some 0o007
    | _ => none
  if digits ≠ [] then
    let n := (Integer.digits 8 digits).1
    if n ≤ modeBits then some (.bits n, text.drop digits.length) else none
  else match copied with
    | some people => some (.copied people, text.tail)
    | none =>
      let letters := text.takeWhile fun c => c = 'X' || (bitsOf? c).isSome
      let bits := letters.foldl (fun bits c => bits ||| (bitsOf? c).getD 0) 0
      some (if 'X' ∈ letters then .orExecute bits else .bits bits, text.drop letters.length)

/-- The changes that follow the people in a clause. -/
def ofOperators (people : Nat) : Nat → List Char → Option (List ModeChange)
  | 0, _ => none
  | _, [] => some []
  | fuel + 1, c :: rest => do
    let operator ← operatorOf? c
    let (value, rest) ← valueOf rest
    let others ← ofOperators people fuel rest
    return { operator, people, value } :: others

/-- The changes of a clause. -/
def ofClause (clause : String) : Option (List ModeChange) :=
  let letters := clause.toList.takeWhile fun c => (peopleOf? c).isSome
  let people := letters.foldl (fun bits c => bits ||| (peopleOf? c).getD 0) 0
  match clause.toList.drop letters.length with
  | [] => none
  | rest => ofOperators people (rest.length + 1) rest

/-- Changes a mode. -/
def apply (change : ModeChange) (directory : Bool) (mask mode : Nat) : Nat :=
  let without (bits others : Nat) : Nat := bits ^^^ (bits &&& others)
  let value := match change.value with
    | .bits bits => bits
    | .orExecute bits =>
      if directory ∨ mode &&& 0o111 ≠ 0 then bits ||| 0o111 else bits
    | .copied people =>
      let own := mode &&& people
      [0o444, 0o222, 0o111].foldl (fun bits kind =>
        if own &&& kind = 0 then bits else bits ||| kind) 0
  let kept := if directory then without 0o6000 (change.people &&& value) else 0
  let limit := if change.people = 0 then without modeBits mask else change.people
  let value := without (value &&& limit) kept
  match change.operator with
  | .add => mode ||| value
  | .remove => without mode value
  | .set =>
    let preserved := (if change.people = 0 then 0 else without modeBits change.people) ||| kept
    (mode &&& preserved) ||| value

end ModeChange

namespace ModeWord

/-- What a word says about modes, if it is a mode. -/
def ofText? (text : String) : Option ModeWord :=
  let digits := text.toList
  if digits.head?.any fun c => '0' ≤ c && c ≤ '7' then
    let (n, rest) := Integer.digits 8 digits
    if rest = [] ∧ n ≤ modeBits then some (.octal n (digits.length < 5)) else none
  else ((text.splitOn ",").mapM ModeChange.ofClause).map fun found => .changes found.flatten

/-- Changes a mode. -/
def apply (w : ModeWord) (directory : Bool) (mask mode : Nat) : Nat :=
  match w with
  | octal bits keeps => if directory && keeps then bits ||| (mode &&& 0o6000) else bits
  | changes list => list.foldl (fun mode change => change.apply directory mask mode) mode

end ModeWord

/-- The letters for the bits of a mode. -/
def modeText (mode : Nat) : String :=
  let has (bit : Nat) : Bool := mode &&& bit ≠ 0
  let letter (bit : Nat) (c : Char) : Char := if has bit then c else '-'
  let last (bit special : Nat) (both alone : Char) : Char :=
    if has special then if has bit then both else alone else letter bit 'x'
  String.ofList
    [letter 0o400 'r', letter 0o200 'w', last 0o100 0o4000 's' 'S',
      letter 0o040 'r', letter 0o020 'w', last 0o010 0o2000 's' 'S',
      letter 0o004 'r', letter 0o002 'w', last 0o001 0o1000 't' 'T']

end Programs

end FileScript.Shell
