/-!
# Sets of characters

A set of characters is given by ranges of code points, in ascending order and with gaps between
them. No character has one of the code points between `lastLow` and `firstHigh`, so the set
operations step over them.
-/

namespace FileScript.Regex

/-- The code points from `low` up to `high`, both included. -/
structure CharRange where
  low : Nat
  high : Nat
  deriving DecidableEq, Repr, Inhabited

namespace CharRange

/-- The last code point of a character below the gap. -/
def lastLow : Nat := 0xd7ff

/-- The first code point of a character above the gap. -/
def firstHigh : Nat := 0xe000

/-- The last code point of all. -/
def last : Nat := 0x10ffff

/-- The code point of the next character. -/
def next (code : Nat) : Nat := if code = lastLow then firstHigh else code + 1

/-- The code point of the character before. -/
def previous (code : Nat) : Nat := if code = firstHigh then lastLow else code - 1

/-- The range between two code points, in whatever order they come. -/
def between (a b : Nat) : CharRange := ⟨min a b, max a b⟩

/-- Whether a code point belongs to a range. -/
def contains (r : CharRange) (code : Nat) : Bool := r.low ≤ code && code ≤ r.high

/-- Whether a range comes before another one, or begins with it and ends first. -/
def atOrBefore (a b : CharRange) : Bool := a.low < b.low || (a.low == b.low && a.high ≤ b.high)

/-- The part that two ranges have in common. -/
def inter? (a b : CharRange) : Option CharRange :=
  let common : CharRange := ⟨max a.low b.low, min a.high b.high⟩
  if common.low ≤ common.high then some common else none

/-- What is left of a range without another one. -/
def without (a b : CharRange) : List CharRange :=
  if b.low ≤ a.low ∧ a.high ≤ b.high then []
  else if (a.inter? b).isNone then [a]
  else
    (if a.low < b.low then [between a.low (previous b.low)] else []) ++
      (if b.high < a.high then [between (next b.high) a.high] else [])

/-- The same letters in the other case, as far as a range holds plain letters. -/
def otherCase (r : CharRange) : List CharRange :=
  let lower := (r.inter? ⟨97, 122⟩).map fun r => ⟨r.low - 32, r.high - 32⟩
  let upper := (r.inter? ⟨65, 90⟩).map fun r => ⟨r.low + 32, r.high + 32⟩
  lower.toList ++ upper.toList

/-- Joins ascending ranges that touch or overlap. -/
def joined : List CharRange → List CharRange
  | [] => []
  | r :: rest =>
    match joined rest with
    | [] => [r]
    | next :: more =>
      if next.low ≤ r.high + 1 then ⟨r.low, max r.high next.high⟩ :: more else r :: next :: more

/-- Ranges in ascending order and with gaps between them. -/
def arranged (ranges : List CharRange) : List CharRange := joined (ranges.mergeSort atOrBefore)

end CharRange

/-- A set of characters. -/
structure CharSet where
  ranges : List CharRange
  /-- Whether the set is known to hold every letter in all cases in which it can be written. -/
  caseless : Bool
  deriving Repr, Inhabited

namespace CharSet

/-- No character. -/
def empty : CharSet := ⟨[], true⟩

/-- The characters of some ranges. -/
def ofRanges (ranges : List CharRange) : CharSet := ⟨CharRange.arranged ranges, ranges.isEmpty⟩

/-- One character. -/
def singleton (c : Char) : CharSet := ofRanges [⟨c.toNat, c.toNat⟩]

/-- Whether a set has no members beyond the plain characters. -/
def isPlain (s : CharSet) : Bool := s.ranges.all (·.high < 128)

/-- The characters of either set. -/
def union (s t : CharSet) : CharSet :=
  if t.ranges = [] ∨ s.ranges = t.ranges then s
  else ⟨CharRange.arranged (s.ranges ++ t.ranges), s.caseless && t.caseless⟩

/-- The characters of both sets. -/
def inter (s t : CharSet) : CharSet :=
  if s.ranges = [] then s
  else if t.ranges = [] then empty
  else
    let common := s.ranges.flatMap fun r => t.ranges.filterMap r.inter?
    ⟨CharRange.arranged common, s.caseless && t.caseless⟩

/-- The characters of a set that are not in another one. -/
def difference (s t : CharSet) : CharSet :=
  if s.ranges = [] ∨ t.ranges = [] then s
  else
    let left := t.ranges.foldl (fun left r => left.flatMap (·.without r)) s.ranges
    ⟨left, s.caseless && t.caseless⟩

/-- The characters of exactly one of two sets. -/
def symmetricDifference (s t : CharSet) : CharSet := (s.union t).difference (s.inter t)

/-- The ranges between ascending ranges, of which the last one was `r`, and behind them. -/
def gapsAfter (r : CharRange) : List CharRange → List CharRange
  | [] => if r.high < CharRange.last then [.between (CharRange.next r.high) CharRange.last] else []
  | next :: rest =>
    .between (CharRange.next r.high) (CharRange.previous next.low) :: gapsAfter next rest

/-- The characters that are not in a set. -/
def complement (s : CharSet) : CharSet :=
  match s.ranges with
  | [] => ⟨[⟨0, CharRange.last⟩], true⟩
  | r :: rest =>
    let below : List CharRange := if 0 < r.low then [.between 0 (CharRange.previous r.low)] else []
    ⟨below ++ gapsAfter r rest, s.caseless⟩

/-- A set with its plain letters in both cases. -/
def withPlainCases (s : CharSet) : CharSet :=
  ⟨CharRange.arranged (s.ranges ++ s.ranges.flatMap (·.otherCase)), true⟩

end CharSet

end FileScript.Regex
