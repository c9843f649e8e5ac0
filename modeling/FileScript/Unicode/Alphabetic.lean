import FileScript.Unicode.Category

/-!
# Alphabetic characters

Letters are alphabetic, and so are numbers that are written as letters, letters in circles and
squares, and many of the marks that are written at letters, such as the vowel signs.
-/

namespace FileScript.Unicode

/-- The runs of alphabetic marks: how far a run begins behind the end of the one before, and behind
a `+` its length if that is not one. -/
def alphabeticMarkTable : String := String.join [
  "837 29+13 576+14 1 1+2 1+2 1 72+11 48+13 1+7 16 101+7 4+4 2+2 4 35 30+16 102+11 101+2 3+9 ",
  "1+3 1+4 106 60+12 3+7 6+20 54+2 2+15 1+2 5+3 10+2 29+3 58+7 2+2 2+2 10 10+2 29+3 58+5 4+2 ",
  "2+2 4 30+2 3 11+3 58+8 1+3 1+2 21+2 22+3 4+3 58+7 2+2 2+2 9+2 10+2 30 59+5 3+3 1+3 10 40+5 ",
  "57+7 1+3 1+3 8+2 11+2 29+3 58+7 1+3 1+3 8+2 11+2 15 12+4 58+7 1+3 1+3 10 10+2 29+3 75+6 1 ",
  "1+8 18+2 61 2+7 18 99 2+6 1+2 16 163+19 9+11 1+36 110+12 1 2+4 23+4 4+3 1+3 2+7 3+4 13+12 1 ",
  "10+4 1652+2 30+2 30+2 30+2 66+19 188+2 34 118+12 4+9 222+5 57+10 2+20 74+2 11+3 49+5 48+15 ",
  "60+3 30+9 2+2 57+11 50+19 412+34 4075+32 30836+8 34+2 354 8 23+5 88+2 50+16 1 57 38+5 28+12 ",
  "45+4 48+12 37 67+14 12 8+2 45+3 50 1+3 2+2 5 44+5 5 237+8 20275 2135+5 1670+3 1+2 5+4 788+4 ",
  "65 321+2 79 259+3 53+14 45+2 11+3 45+9 9 61+3 36+12 18+2 57+3 48+13 14+2 92+9 2 6 2 157+10 ",
  "23+4 58+7 2+2 2+2 10 10+2 84+9 1 2 1+4 1+2 103+13 1+3 106+18 237+7 2+7 29+2 82+15 1 106+11 ",
  "103+14 257+13 247+6 1+2 2+2 3 1 142+7 2+6 4 28+10 42+5 1+4 18+11 46+14 407+8 1+7 83+22 1+14 ",
  "122+6 3 1+2 1+3 1 3 66+5 1+2 1+4 348+4 9+2 1 48+7 3+3 16861+17 3616 1+55 7+4 93+2 19628 ",
  "9057+7 1+17 2+7 1+2 1+5 100 2231"]

/-- The first and the last code points of runs that are given as in the table, from the code point
`next` on. -/
def markRunsFrom (next : Nat) : List String → List (Nat × Nat)
  | [] => []
  | word :: rest =>
    let numbers := (word.splitOn "+").map fun digits =>
      digits.toList.foldl (fun n d => 10 * n + (d.toNat - 48)) 0
    let first := next + numbers.headD 0
    let last := first + (numbers.tail.headD 1 - 1)
    (first, last) :: markRunsFrom (last + 1) rest

/-- The first and the last code points of the runs of alphabetic marks. -/
def alphabeticMarks : List (Nat × Nat) := markRunsFrom 0 (alphabeticMarkTable.splitOn " ")

/-- Whether a character is a symbol that counts as a letter, such as a letter in a circle. -/
def isLetterSymbol (c : Char) : Bool :=
  let n := c.toNat
  (0x24b6 ≤ n && n ≤ 0x24e9) || (0x1f130 ≤ n && n ≤ 0x1f149) || (0x1f150 ≤ n && n ≤ 0x1f169) ||
    (0x1f170 ≤ n && n ≤ 0x1f189)

/-- Whether a character is alphabetic. -/
def isAlphabetic (c : Char) : Bool :=
  let category := Category.of c
  category.group == 'L' || category == ⟨'N', 'l'⟩ || isLetterSymbol c ||
    (category.group == 'M' &&
      alphabeticMarks.any fun (first, last) => first ≤ c.toNat && c.toNat ≤ last)

end FileScript.Unicode
