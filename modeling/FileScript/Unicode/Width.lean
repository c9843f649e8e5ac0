import FileScript.Unicode.Category

/-!
# Widths of characters

How many columns a character takes when it is shown: two for the characters of East Asian scripts
and for most pictures, none for marks that are put on other characters.
-/

namespace FileScript.Unicode

/-- The first and the last code points of runs of characters that take two columns. -/
def wideRuns : List (Nat × Nat) :=
  [(0x1100, 0x115f), (0x231a, 0x231b), (0x2329, 0x232a), (0x23e9, 0x23ec), (0x2e80, 0x303e),
    (0x3041, 0x33ff), (0x3400, 0x4dbf), (0x4e00, 0xa4cf), (0xa960, 0xa97f), (0xac00, 0xd7a3),
    (0xf900, 0xfaff), (0xfe30, 0xfe6f), (0xff01, 0xff60), (0xffe0, 0xffe6), (0x1f300, 0x1f320),
    (0x1f32d, 0x1f64f), (0x1f680, 0x1f6c5), (0x1f900, 0x1f9ff), (0x20000, 0x3fffd)]

/-- The number of columns that a character takes. It is known for characters that can be shown. -/
def columns? (c : Char) : Option Nat :=
  if !isPrintable c then none
  else if Category.of c ∈ [⟨'M', 'n'⟩, ⟨'M', 'e'⟩, ⟨'C', 'f'⟩] ∧ c ≠ '\u00ad' then some 0
  else if wideRuns.any fun (first, last) => first ≤ c.toNat && c.toNat ≤ last then some 2
  else some 1

end FileScript.Unicode
