import FileScript.Shell.Difference.Script
import FileScript.Shell.Octets
import FileScript.Unicode.Width

/-!
# Printed differences

Changes are printed one by one, in hunks with the lines around them, as commands for an editor or
side by side. The lines of a text keep their ends; the last one may lack it, which is told.
-/

namespace FileScript.Shell.Difference

/-- Two texts with the changes between them. -/
structure Comparison where
  first : Array String
  second : Array String
  script : List Change
  /-- Which lines do not count: changes of only such lines are left out. -/
  isTrivial : Option (String → Bool) := none

/-- Changes that are printed together. -/
abbrev Hunk := List Change

/-- Lines from one up to another; there are none if the last one comes before the first. -/
structure Extent where
  first : Int
  last : Int
  deriving DecidableEq, Repr, Inhabited

namespace Extent

/-- How many lines there are. -/
def size (e : Extent) : Nat := (e.last - e.first + 1).toNat

/-- The lines of a text. -/
def lines (e : Extent) (text : Array String) : List String :=
  (text.toList.drop e.first.toNat).take e.size

/-- The extent with more lines around it, as far as the text has such. -/
def widened (e : Extent) (context size : Nat) : Extent :=
  { first := max 0 (e.first - context), last := min (e.last + context) (size - 1) }

/-- The numbers of the first and the last line, with a character between them. If there are no lines,
it is the number of the line before them. -/
def shown (e : Extent) (separator : String) : String :=
  if e.last > e.first then s!"{e.first + 1}{separator}{e.last + 1}" else s!"{e.last + 1}"

/-- The number of the first line and the number of lines. -/
def counted (e : Extent) : String :=
  if e.last < e.first then s!"{e.last + 1},0"
  else if e.last = e.first then s!"{e.last + 1}"
  else s!"{e.first + 1},{e.size}"

end Extent

/-- What is changed: lines are taken out, put in, or both. -/
inductive Kind where
  | deleted
  | inserted
  | changed
  deriving DecidableEq, Repr, Inhabited

/-- The letter of the editor's command for a change. -/
def Kind.letter : Kind → String
  | deleted => "d"
  | inserted => "a"
  | changed => "c"

namespace Hunk

/-- The extents of a hunk in both texts. -/
def extents (h : Hunk) : Extent × Extent :=
  let start := h.headD default
  let finish := h.getLastD default
  ({ first := start.line, last := (finish.line + finish.deleted : Nat) - 1 },
    { first := start.other, last := (finish.other + finish.inserted : Nat) - 1 })

/-- What a hunk changes; nothing if all its lines do not count. -/
def kind? (c : Comparison) (h : Hunk) : Option Kind :=
  let isDropped (isTrivial : String → Bool) (change : Change) : Bool :=
    let removed : Extent := {
      first := change.line, last := (change.line + change.deleted : Nat) - 1 }
    let added : Extent := {
      first := change.other, last := (change.other + change.inserted : Nat) - 1 }
    (removed.lines c.first ++ added.lines c.second).all isTrivial
  if c.isTrivial.any fun isTrivial => h.all (isDropped isTrivial) then none
  else if h.all (·.deleted = 0) then some .inserted
  else if h.all (·.inserted = 0) then some .deleted
  else some .changed

end Hunk

namespace Comparison

/-- Whether anything is changed that counts. -/
def differs (c : Comparison) : Bool := c.script.any fun change => (Hunk.kind? c [change]).isSome

/-! ## Lines -/

/-- A line behind a mark. It is told if the line has no end. -/
def marked (mark line : String) : String :=
  mark ++ line ++ if line.endsWith "\n" then "" else "\n\\ No newline at end of file\n"

/-- Lines behind a mark. -/
def markedAll (mark : String) (lines : List String) : String :=
  String.join (lines.map (marked mark))

/-! ## Changes one by one -/

/-- The changes one by one. -/
def plain (c : Comparison) : String :=
  String.join (c.script.map fun change =>
    let (removed, added) := Hunk.extents [change]
    match Hunk.kind? c [change] with
    | none => ""
    | some kind =>
      removed.shown "," ++ kind.letter ++ added.shown "," ++ "\n" ++
        markedAll "< " (removed.lines c.first) ++ (if kind = .changed then "---\n" else "") ++
        markedAll "> " (added.lines c.second))

/-! ## Commands -/

/-- The lines that the editor is told to put in, up to a dot. A line that is only a dot is put in as
two, of which one is taken out again. -/
def typed : (isOpen : Bool) → List String → String
  | isOpen, [] => if isOpen then ".\n" else ""
  | isOpen, line :: rest =>
    let start := if isOpen then "" else "a\n"
    if line = ".\n" then start ++ "..\n.\ns/.//\n" ++ typed false rest
    else start ++ line ++ typed true rest

/-- Commands for the editor, from the end on. -/
def commands (c : Comparison) : String :=
  String.join (c.script.reverse.map fun change =>
    let (removed, added) := Hunk.extents [change]
    match Hunk.kind? c [change] with
    | none => ""
    | some kind =>
      removed.shown "," ++ kind.letter ++ "\n" ++
        if kind = .deleted then "" else typed true (added.lines c.second))

/-- Commands from the beginning on, with their letters first. -/
def forwardCommands (c : Comparison) : String :=
  String.join (c.script.map fun change =>
    let (removed, added) := Hunk.extents [change]
    match Hunk.kind? c [change] with
    | none => ""
    | some kind =>
      kind.letter ++ removed.shown " " ++ "\n" ++
        if kind = .deleted then "" else String.join (added.lines c.second) ++ ".\n")

/-- Commands with the numbers of lines. -/
def countedCommands (c : Comparison) : String :=
  String.join (c.script.map fun change =>
    let (removed, added) := Hunk.extents [change]
    match Hunk.kind? c [change] with
    | none => ""
    | some kind =>
      (if kind = .inserted then "" else s!"d{removed.first + 1} {removed.size}\n") ++
        if kind = .deleted then ""
        else s!"a{removed.last + 1} {added.size}\n" ++ String.join (added.lines c.second))

/-! ## Hunks -/

/-- The changes that belong to one hunk with a first one, and the others. -/
def hunkFrom (c : Comparison) (context : Nat) : Change → List Change → Hunk × List Change
  | change, [] => ([change], [])
  | change, next :: rest =>
    let limit := if (Hunk.kind? c [next]).isNone then context else 2 * context + 1
    if next.line - (change.line + change.deleted) < limit then
      let (hunk, others) := c.hunkFrom context next rest
      (change :: hunk, others)
    else ([change], next :: rest)

/-- The changes in hunks. -/
def hunksWithin (c : Comparison) (context : Nat) : (fuel : Nat) → List Change → List Hunk
  | 0, _ | _, [] => []
  | fuel + 1, change :: rest =>
    let (hunk, others) := c.hunkFrom context change rest
    hunk :: c.hunksWithin context fuel others

/-- The changes in hunks. -/
def hunks (c : Comparison) (context : Nat) : List Hunk :=
  (c.hunksWithin context c.script.length c.script).filter fun h => (Hunk.kind? c h).isSome

/-- The lines of a hunk from one up to another, with changes among them. -/
def mixed (c : Comparison) : (line last : Nat) → Hunk → String
  | line, last, [] =>
    markedAll " " (Extent.lines { first := line, last := last } c.first)
  | line, last, change :: rest =>
    let (removed, added) := Hunk.extents [change]
    markedAll " " (Extent.lines { first := line, last := (change.line : Int) - 1 } c.first) ++
      markedAll "-" (removed.lines c.first) ++ markedAll "+" (added.lines c.second) ++
      c.mixed (change.line + change.deleted) last rest

/-- The lines of a hunk from one up to another; nothing is left behind the last one. -/
def mixedUpTo (c : Comparison) (e : Extent) (h : Hunk) : String :=
  if e.last < 0 then markedAll "+" ((Hunk.extents h).2.lines c.second)
  else c.mixed e.first.toNat e.last.toNat h

/-- The hunks, with the lines of both texts mixed. -/
def unified (c : Comparison) (context : Nat) : String :=
  String.join ((c.hunks context).map fun h =>
    let (removed, added) := Hunk.extents h
    let removed := removed.widened context c.first.size
    let added := added.widened context c.second.size
    s!"@@ -{removed.counted} +{added.counted} @@\n" ++ c.mixedUpTo removed h)

/-- The lines of a hunk in one of the texts. `own` yields the lines of a change in it, and `others`
tells how many lines the change has in the other text. -/
def sided (text : Array String) (e : Extent) (mark : String) (own : Change → Nat × Nat)
    (others : Change → Nat) (h : Hunk) : String :=
  String.join ((e.lines text).zipIdx.map fun (line, i) =>
    let number := e.first.toNat + i
    let change? := h.find? fun change => number < (own change).1 + (own change).2
    let prefixMark := match change? with
      | some change =>
        if (own change).1 ≤ number then (if others change > 0 then "! " else mark) else "  "
      | none => "  "
    marked prefixMark line)

/-- The hunks, with the lines of both texts apart. -/
def apart (c : Comparison) (context : Nat) : String :=
  String.join ((c.hunks context).map fun h =>
    let kind := (Hunk.kind? c h).getD .changed
    let (removed, added) := Hunk.extents h
    let removed := removed.widened context c.first.size
    let added := added.widened context c.second.size
    "***************\n*** " ++ removed.shown "," ++ " ****\n" ++
      (if kind = .inserted then ""
        else sided c.first removed "- " (fun x => (x.line, x.deleted)) (·.inserted) h) ++
      "--- " ++ added.shown "," ++ " ----\n" ++
      (if kind = .deleted then ""
        else sided c.second added "+ " (fun x => (x.other, x.inserted)) (·.deleted) h))

/-! ## Side by side -/

/-- How texts are shown side by side. -/
structure Columns where
  /-- How wide each text is shown. -/
  half : Nat
  /-- Where the second one begins. -/
  second : Nat
  /-- Whether lines that both texts have are left out. -/
  onlyChanges : Bool := false
  /-- Whether lines that both texts have are shown once. -/
  leftOnly : Bool := false

/-- The columns for lines of a width. -/
def Columns.ofWidth (width : Nat) : Columns :=
  let unaligned := width / 2 + 5 + width % 2
  let second := unaligned - unaligned % 8
  let half := if second ≤ 3 ∨ width ≤ second then 0 else min (second - 3) (width - second)
  { half, second := if half = 0 then width else second }

/-- Tabs and spaces from one column to another. -/
def gap (start finish : Nat) : String :=
  let tabs := if finish / 8 > start / 8 then finish / 8 - start / 8 else 0
  let column := if tabs = 0 then start else finish / 8 * 8
  ("".pushn '\t' tabs).pushn ' ' (finish - column)

/-- A line as far as it fits, and the column behind it. `column` is where the line has come, `shown`
how much of it has been shown. -/
def clipped (indent bound : Nat) : (column shown : Nat) → List Octets.Piece → String × Nat
  | _, shown, [] => ("", shown)
  | column, shown, p :: rest =>
    let goOn (text : String) (column shown : Nat) : String × Nat :=
      let (more, last) := clipped indent bound column shown rest
      (text ++ more, last)
    match p with
    | .char '\n' => ("", shown)
    | .char '\t' =>
      let next := column + 8 - column % 8
      if column = shown ∧ next < bound then goOn "\t" next next else goOn "" next shown
    | .char '\r' => goOn ("\r" ++ gap 0 indent) 0 0
    | .char '\x08' =>
      let back := column - 1
      if column = 0 then goOn "" 0 shown
      else if back < bound then
        if shown ≤ back then goOn ("".pushn ' ' (back - shown)) back back else goOn "\x08" back back
      else goOn "" back shown
    | .char c =>
      let next := column + (Unicode.columns? c).getD 0
      if next ≤ bound then goOn p.text next next else goOn "" next shown
    | .byte _ => if column < bound then goOn p.text (column + 1) (column + 1)
      else goOn "" (column + 1) shown

/-- Two lines side by side, with a mark between them. -/
def sideBySide (s : Columns) (left : Option String) (mark : Char) (right : Option String) :
    String :=
  let isEnded (line : Option String) : Bool := line.any (·.endsWith "\n")
  let (start, column) := match left with
    | some line => clipped 0 s.half 0 0 (Octets.pieces line)
    | none => ("", 0)
  let mark := if mark = '|' ∧ isEnded left ≠ isEnded right then
      (if isEnded left then '/' else '\\')
    else mark
  let place := (s.half + s.second - 1) / 2
  let (middle, column) := if mark = ' ' then ("", column) else
    ((gap column place).push mark, place + 1)
  let finish := match right with
    | some line =>
      if line.startsWith "\n" then ""
      else gap column s.second ++ (clipped s.second s.half 0 0 (Octets.pieces line)).1
    | none => ""
  start ++ middle ++ finish ++ if isEnded left || isEnded right then "\n" else ""

/-- Lines that both texts have, as long as both go on, and then those that are left of one. -/
def commonLines (s : Columns) : (left right : List String) → String
  | [], [] => ""
  | x :: left, y :: right =>
    if s.leftOnly then sideBySide s (some x) '(' none ++ commonLines s left right
    else sideBySide s (some x) ' ' (some y) ++ commonLines s left right
  | [], y :: right =>
    (if s.leftOnly then "" else sideBySide s none ')' (some y)) ++ commonLines s [] right
  | x :: left, [] => sideBySide s (some x) '(' none ++ commonLines s left []

/-- The lines of a change side by side. -/
def changedPairs (s : Columns) : (left right : List String) → String
  | x :: left, y :: right => sideBySide s (some x) '|' (some y) ++ changedPairs s left right
  | left, right =>
    String.join (right.map fun y => sideBySide s none '>' (some y)) ++
      String.join (left.map fun x => sideBySide s (some x) '<' none)

/-- The texts side by side, from lines on. -/
def sideBySideFrom (c : Comparison) (s : Columns) : (line other : Nat) → List Change → String
  | line, other, [] =>
    if s.onlyChanges then ""
    else commonLines s (c.first.toList.drop line) (c.second.toList.drop other)
  | line, other, change :: rest =>
    if (Hunk.kind? c [change]).isNone then c.sideBySideFrom s line other rest
    else
      let (removed, added) := Hunk.extents [change]
      let before := if s.onlyChanges then "" else
        commonLines s ((c.first.toList.drop line).take (change.line - line))
          ((c.second.toList.drop other).take (change.other - other))
      before ++ changedPairs s (removed.lines c.first) (added.lines c.second) ++
        c.sideBySideFrom s (change.line + change.deleted) (change.other + change.inserted) rest

/-- The texts side by side. -/
def inColumns (c : Comparison) (s : Columns) : String := c.sideBySideFrom s 0 0 c.script

end Comparison

end FileScript.Shell.Difference
