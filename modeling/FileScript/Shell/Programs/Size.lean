import FileScript.Shell.Programs.Basic

/-!
# Numbers in words

Programs read numbers of lines and bytes from their words. A letter behind the digits stands for a
unit by which the number is multiplied.
-/

namespace FileScript.Shell

namespace Programs

/-- Why a word denotes no number. -/
inductive SizeFault where
  | malformed
  | tooLarge
  deriving DecidableEq, Repr, Inhabited

/-- The power that a letter for a unit stands for. -/
def unitPower? (c : Char) : Option Nat :=
  if c = 'k' then some 1 else if c = 'm' then some 2
  else ("KMGTPEZYRQ".toList.idxOf? c).map (· + 1)

/-- The unit that letters behind a number stand for: a power of 1024, or of 1000 if a second letter
says so. -/
def unitOf? (letters : String) (text : List Char) : Option Nat :=
  match text with
  | [] => some 1
  | c :: rest =>
    if !letters.contains c then none
    else match c, rest with
      | 'b', [] => some 512
      | 'c', [] => some 1
      | 'w', [] => some 2
      | _, _ =>
        match unitPower? c, rest with
        | some power, [] | some power, ['i', 'B'] => some (Nat.pow 1024 power)
        | some power, ['B'] | some power, ['D'] => some (Nat.pow 1000 power)
        | _, _ => none

/-- The number that a word denotes, with letters for a unit behind it. Letters alone stand for their
unit. -/
def sizeOf (letters word : String) : Except SizeFault Int :=
  let text := word.toList.dropWhile isBlank
  let (negative, text) := match text with
    | '-' :: rest => (true, rest)
    | '+' :: rest => (false, rest)
    | _ => (false, text)
  let digits := text.takeWhile Char.isDigit
  let rest := text.drop digits.length
  let isBare := digits = [] && word.toList.head?.any fun c => letters.contains c
  if digits = [] ∧ !isBare then .error .malformed
  else
    let number := if isBare then 1 else (Integer.digits 10 digits).1
    match unitOf? letters rest with
    | some unit =>
      if number * unit < UInt64.size then .ok (if negative then -(number * unit) else number * unit)
      else .error .tooLarge
    | none => .error .malformed

/-- The letters for units that most programs know. -/
def usualUnits : String := "bkKmMGTPEZYRQ"

/-- The greatest size. -/
def greatestSize : Nat := UInt64.size - 1

/-- The greatest number that many programs count with. -/
def greatestCount : Nat := Int64.maxValue.toInt.toNat

/-- A number within limits; or what a program says about its word. -/
def limited (what word : String) (least most : Int) (found : Except SizeFault Int) :
    Except String Int :=
  let refused (reason : String) : Except String Int :=
    .error (s!"{what}: {Quoting.value word}" ++ reason)
  match found with
  | .error .malformed => refused ""
  | .error .tooLarge => refused ": Value too large for defined data type"
  | .ok n =>
    if least ≤ n ∧ n ≤ most then .ok n
    else if n > Int32.maxValue.toInt / 2 then refused ": Value too large for defined data type"
    else refused ": Numerical result out of range"

/-- The whole number that a word denotes, within limits; or what a program says about the word. -/
def integerOf (what word : String) (least most : Int) : Except String Int :=
  limited what word least most (sizeOf "" word)

/-- The number of lines or bytes that a word denotes, within limits; or what a program says about
the word. No sign may make it negative. -/
def countOf (what letters word : String) (least : Nat := 0) (most : Nat := greatestSize) :
    Except String Nat :=
  let isNegative := (word.toList.dropWhile isBlank).head? = some '-'
  let found := if isNegative then .error .malformed else sizeOf letters word
  (limited what word least most found).map Int.toNat

end Programs

end FileScript.Shell
