import Std.Data.HashMap

/-!
# Differences of two texts

How one list of lines becomes another one: which lines have to be taken out and which have to be put
in. As few lines as possible are changed, but for lines that do not help to find what belongs
together; these are left out first. At the end, changed lines are moved to where they meet other
changed lines, or as far down as they can be.

Lines are numbered from 0 on, and equal lines have the same class.
-/

namespace FileScript.Shell.Difference

/-- A change: where it begins in both texts, and how many lines it takes out and puts in. -/
structure Change where
  line : Nat
  other : Nat
  deleted : Nat
  inserted : Nat
  deriving DecidableEq, Repr, Inhabited

/-! ## Marks -/

/-- Whether a line is marked. No line outside the text is. -/
def isMarked (marks : Array Bool) (i : Int) : Bool := 0 ≤ i && marks.getD i.toNat false

/-- Marks a line, or takes its mark away. -/
def mark (marks : Array Bool) (i : Int) (value : Bool) : Array Bool :=
  marks.setIfInBounds i.toNat value

/-- The first line from one on that is not marked. -/
def clearFrom (marks : Array Bool) : (fuel : Nat) → Int → Int
  | 0, i => i
  | fuel + 1, i => if isMarked marks i then clearFrom marks fuel (i + 1) else i

/-- The last line up to one that is not marked. -/
def clearUpTo (marks : Array Bool) : (fuel : Nat) → Int → Int
  | 0, i => i
  | fuel + 1, i => if isMarked marks i then clearUpTo marks fuel (i - 1) else i

/-- The first line from one on that is not marked. -/
def nextClear (marks : Array Bool) (i : Int) : Int := clearFrom marks (marks.size + 1) i

/-- The last line up to one that is not marked. -/
def lastClear (marks : Array Bool) (i : Int) : Int := clearUpTo marks (marks.size + 1) i

/-! ## Shortest ways

Where the lines of two texts are the sides of a rectangle, a change is a step along one side, and
lines that both texts have are a step across. A way from one corner to the other is looked for from
both ends at once, diagonal by diagonal. -/

/-- A part of the rectangle. -/
structure Box where
  left : Int
  right : Int
  top : Int
  bottom : Int
  deriving Inhabited

/-- The diagonals that can be reached with so many changes, and how far. -/
structure Front where
  low : Int
  high : Int
  /-- How far the way goes on each diagonal. -/
  reach : Array Int

namespace Front

/-- How far the way goes on a diagonal. `shift` is the index of the diagonal 0. -/
def get (f : Front) (shift d : Int) : Int := f.reach.getD (d + shift).toNat 0

/-- The front with a diagonal. -/
def set (f : Front) (shift d x : Int) : Front :=
  { f with reach := f.reach.setIfInBounds (d + shift).toNat x }

/-- The front with one diagonal more at each end, if there is one in the box. `outside` is how far
the way goes on diagonals that have not been reached. -/
def widened (f : Front) (shift least most outside : Int) : Front :=
  let f := if f.low > least then { f.set shift (f.low - 2) outside with low := f.low - 1 }
    else { f with low := f.low + 1 }
  if f.high < most then { f.set shift (f.high + 2) outside with high := f.high + 1 }
  else { f with high := f.high - 1 }

/-- Whether a diagonal belongs to the front. -/
def has (f : Front) (d : Int) : Bool := f.low ≤ d && d ≤ f.high

end Front

/-- The classes of the lines of two texts. -/
structure Texts where
  first : Array Nat
  second : Array Nat

namespace Texts

/-- Whether two lines are equal. -/
def same (t : Texts) (x y : Int) : Bool :=
  match t.first[x.toNat]?, t.second[y.toNat]? with
  | some a, some b => a = b
  | _, _ => false

/-- How far one gets across from a point on. -/
def slideDown (t : Texts) (b : Box) : (fuel : Nat) → (x y : Int) → Int
  | 0, x, _ => x
  | fuel + 1, x, y =>
    if x < b.right ∧ y < b.bottom ∧ t.same x y then t.slideDown b fuel (x + 1) (y + 1) else x

/-- How far one gets back across from a point on. -/
def slideUp (t : Texts) (b : Box) : (fuel : Nat) → (x y : Int) → Int
  | 0, x, _ => x
  | fuel + 1, x, y =>
    if b.left < x ∧ b.top < y ∧ t.same (x - 1) (y - 1) then t.slideUp b fuel (x - 1) (y - 1) else x

/-- A bound for the number of steps along one side or across. -/
def fuel (t : Texts) : Nat := t.first.size + t.second.size + 4

/-- The index of the diagonal 0. -/
def shift (t : Texts) : Int := t.second.size + 2

/-- Goes on down from the diagonals of a front, the highest first, up to a point that the other front
has reached too. -/
def advance (t : Texts) (b : Box) (odd : Bool) (back : Front) : (fuel : Nat) → Int → Front →
    Front × Option (Int × Int)
  | 0, _, f => (f, none)
  | fuel + 1, d, f =>
    if d < f.low then (f, none)
    else
      let below := f.get t.shift (d - 1)
      let above := f.get t.shift (d + 1)
      let start := if below < above then above else below + 1
      let x := t.slideDown b t.fuel start (start - d)
      let f := f.set t.shift d x
      if odd ∧ back.has d ∧ back.get t.shift d ≤ x then (f, some (x, x - d))
      else t.advance b odd back fuel (d - 2) f

/-- Goes on up from the diagonals of a front, the highest first, up to a point that the other front
has reached too. -/
def retreat (t : Texts) (b : Box) (odd : Bool) (forth : Front) : (fuel : Nat) → Int → Front →
    Front × Option (Int × Int)
  | 0, _, f => (f, none)
  | fuel + 1, d, f =>
    if d < f.low then (f, none)
    else
      let below := f.get t.shift (d - 1)
      let above := f.get t.shift (d + 1)
      let start := if below < above then below else above - 1
      let x := t.slideUp b t.fuel start (start - d)
      let f := f.set t.shift d x
      if !odd ∧ forth.has d ∧ x ≤ forth.get t.shift d then (f, some (x, x - d))
      else t.retreat b odd forth fuel (d - 2) f

/-- A point in the middle of a shortest way through a box. -/
def meeting (t : Texts) (b : Box) : (fuel : Nat) → (forth back : Front) → Option (Int × Int)
  | 0, _, _ => none
  | fuel + 1, forth, back =>
    let least := b.left - b.bottom
    let most := b.right - b.top
    let odd := (b.left - b.top - (b.right - b.bottom)) % 2 ≠ 0
    let forth := forth.widened t.shift least most (-1)
    match t.advance b odd back t.fuel forth.high forth with
    | (_, some point) => some point
    | (forth, none) =>
      let back := back.widened t.shift least most (t.fuel + b.right)
      match t.retreat b odd forth t.fuel back.high back with
      | (_, some point) => some point
      | (back, none) => t.meeting b fuel forth back

/-- A point in the middle of a shortest way through a box. -/
def middle (t : Texts) (b : Box) : Int × Int :=
  let blank : Array Int := Array.replicate (t.fuel + 2) 0
  let start := b.left - b.top
  let finish := b.right - b.bottom
  let forth := ({ low := start, high := start, reach := blank } : Front).set t.shift start b.left
  let back := ({ low := finish, high := finish, reach := blank } : Front).set t.shift finish b.right
  (t.meeting b t.fuel forth back).getD (b.left, b.bottom)

/-- A box without the equal lines at both ends. -/
def trimmed (t : Texts) (b : Box) : Box :=
  let left := t.slideDown b t.fuel b.left b.top
  let b := { b with left, top := b.top + (left - b.left) }
  let right := t.slideUp b t.fuel b.right b.bottom
  { b with right, bottom := b.bottom - (b.right - right) }

/-- Marks the lines from one up to another. -/
def markRange (marks : Array Bool) (first last : Int) : Array Bool :=
  (List.range (last - first).toNat).foldl (fun marks (i : Nat) => mark marks (first + i) true) marks

/-- Marks the lines of both texts that change on a shortest way through a box. -/
def markChanges (t : Texts) : (fuel : Nat) → Box → Array Bool × Array Bool →
    Array Bool × Array Bool
  | 0, _, marks => marks
  | fuel + 1, b, (first, second) =>
    let b := t.trimmed b
    if b.left = b.right then (first, markRange second b.top b.bottom)
    else if b.top = b.bottom then (markRange first b.left b.right, second)
    else
      let (x, y) := t.middle b
      let marks := t.markChanges fuel { b with right := x, bottom := y } (first, second)
      t.markChanges fuel { b with left := x, top := y } marks

/-- The lines of both texts that change on a shortest way. -/
def changes (t : Texts) : Array Bool × Array Bool :=
  let whole : Box := { left := 0, right := t.first.size, top := 0, bottom := t.second.size }
  t.markChanges t.fuel whole (Array.replicate t.first.size false, Array.replicate t.second.size false)

end Texts

/-! ## Lines that do not help -/

/-- Whether a line is left out before shortest ways are looked for. -/
inductive Rating where
  | kept
  | dropped
  /-- Left out if the lines around it are. -/
  | doubtful
  deriving DecidableEq, Repr, Inhabited

/-- The root of a number, roughly: doubled for each fourth power in it. -/
def roughRoot : (fuel : Nat) → (n start : Nat) → Nat
  | 0, _, start => start
  | fuel + 1, n, start => if n / 4 > 0 then roughRoot fuel (n / 4) (2 * start) else start

/-- How a line is rated that the other text has so often. -/
def Rating.ofCount (size count : Nat) : Rating :=
  let many := roughRoot 64 (size / 64) 5
  if count = 0 then .dropped else if count > many then .doubtful else .kept

/-- Keeps the doubtful lines of a run up to three others in a row, or up to one that is at least eight
lines in. -/
def keepBefore : (position row : Nat) → List Rating → List Rating
  | _, _, [] => []
  | position, row, r :: rest =>
    if position ≥ 8 ∧ r = .dropped then r :: rest
    else if r = .doubtful then .kept :: keepBefore (position + 1) 0 rest
    else if r = .kept then r :: keepBefore (position + 1) 0 rest
    else if row + 1 = 3 then r :: rest
    else r :: keepBefore (position + 1) (row + 1) rest

/-- Keeps doubtful lines if there are so many of them in a row. -/
def keepRows (least : Nat) (ratings : List Rating) : List Rating :=
  (ratings.splitBy fun a b => (a = .doubtful) = (b = .doubtful)).flatMap fun row =>
    if row.head? = some .doubtful ∧ row.length ≥ least then row.map fun _ => .kept else row

/-- The final ratings of a run of lines that begins and ends with one that is left out. -/
def rateRun (run : List Rating) : List Rating :=
  let doubtful := run.count .doubtful
  if doubtful * 4 > run.length then run.map fun r => if r = .doubtful then .kept else r
  else
    let least := roughRoot 64 (run.length / 4) 1 + 1
    (keepBefore 0 0 (keepBefore 0 0 (keepRows least run)).reverse).reverse

/-- The final ratings of lines. -/
def rateAll : (fuel : Nat) → List Rating → List Rating
  | 0, ratings => ratings
  | _, [] => []
  | fuel + 1, r :: rest =>
    if r = .dropped then
      let run := (r :: rest).takeWhile (· ≠ .kept)
      let tail := run.reverse.takeWhile (· = .doubtful)
      let body := run.take (run.length - tail.length)
      let after := (r :: rest).drop run.length
      rateRun body ++ tail.map (fun _ => .kept) ++ rateAll fuel after
    else .kept :: rateAll fuel rest

/-- Which lines of a text are kept, given how often the other text has each class. -/
def ratingsOf (classes : Array Nat) (counts : Std.HashMap Nat Nat) : List Rating :=
  let first := classes.toList.map fun c => Rating.ofCount classes.size (counts.getD c 0)
  rateAll (first.length + 1) first

/-- How often a text has each class. -/
def countsOf (classes : Array Nat) : Std.HashMap Nat Nat :=
  classes.foldl (fun counts c => counts.insert c (counts.getD c 0 + 1)) ∅

/-- The lines that change when lines that do not help are left out. All lines help if `minimal`. -/
def changedLines (minimal : Bool) (t : Texts) : Array Bool × Array Bool :=
  let keptOf (own other : Array Nat) : Array Nat :=
    let ratings := (ratingsOf own (countsOf other)).zipIdx
    (ratings.filterMap fun (r, i) => if minimal || r = .kept then some i else none).toArray
  let first := keptOf t.first t.second
  let second := keptOf t.second t.first
  let within (own kept : Array Nat) : Array Nat := kept.map fun i => own.getD i 0
  let inner : Texts := { first := within t.first first, second := within t.second second }
  let (firstMarks, secondMarks) := inner.changes
  let whole (own kept : Array Nat) (marks : Array Bool) : Array Bool :=
    kept.toList.zipIdx.foldl (fun all (i, k) => mark all i (isMarked marks k))
      (Array.replicate own.size true)
  (whole t.first first firstMarks, whole t.second second secondMarks)

/-! ## Moving changes -/

/-- A run of changed lines in a text that is moved, with the place in the other text. -/
structure Run where
  marks : Array Bool
  start : Int
  /-- The first line behind the run. -/
  finish : Int
  /-- The line of the other text that belongs to the line behind the run. -/
  other : Int
  /-- The last end of the run at which it met changed lines of the other text, if there is one. -/
  meeting : Option Int := none

namespace Run

/-- Moves a run back over lines that are equal to its last one. -/
def back (classes : Array Nat) (others : Array Bool) : (fuel : Nat) → Run → Run
  | 0, r => r
  | fuel + 1, r =>
    let equal := classes[(r.start - 1).toNat]? = classes[(r.finish - 1).toNat]?
    if r.start > 0 ∧ equal then
      let marks := mark (mark r.marks (r.start - 1) true) (r.finish - 1) false
      back classes others fuel
        { r with
          marks, start := lastClear marks (r.start - 2) + 1, finish := r.finish - 1
          other := lastClear others (r.other - 1) }
    else r

/-- Moves a run on over lines that are equal to its first one. -/
def forth (classes : Array Nat) (others : Array Bool) : (fuel : Nat) → Run → Run
  | 0, r => r
  | fuel + 1, r =>
    let equal := classes[r.start.toNat]? = classes[r.finish.toNat]?
    if r.finish < classes.size ∧ equal then
      let marks := mark (mark r.marks r.start false) r.finish true
      let finish := nextClear marks (r.finish + 1)
      let other := nextClear others (r.other + 1)
      forth classes others fuel
        { marks, start := r.start + 1, finish, other
          meeting := if other = r.other + 1 then r.meeting else some finish }
    else r

/-- Moves a run back and on until it does not grow any more. -/
def settled (classes : Array Nat) (others : Array Bool) : (fuel : Nat) → Run → Run
  | 0, r => r
  | fuel + 1, r =>
    let size := r.finish - r.start
    let r := back classes others (classes.size + 1) r
    let r := { r with meeting := if isMarked others (r.other - 1) then some r.finish else none }
    let r := forth classes others (classes.size + 1) r
    if r.finish - r.start = size then r else settled classes others fuel r

/-- Moves a run back so that it ends at a line. -/
def endedAt (others : Array Bool) (finish : Int) : (fuel : Nat) → Run → Run
  | 0, r => r
  | fuel + 1, r =>
    if finish < r.finish then
      endedAt others finish fuel
        { r with
          marks := mark (mark r.marks (r.start - 1) true) (r.finish - 1) false
          start := r.start - 1, finish := r.finish - 1, other := lastClear others (r.other - 1) }
    else r

end Run

/-- Moves the runs of changed lines from a line on. `other` is the line of the other text that belongs
to it. -/
def shiftFrom (classes : Array Nat) (others : Array Bool) : (fuel : Nat) → (line other : Int) →
    Array Bool → Array Bool
  | 0, _, _, marks => marks
  | fuel + 1, line, other, marks =>
    if line ≥ classes.size then marks
    else if !isMarked marks line then
      shiftFrom classes others fuel (line + 1) (nextClear others other + 1) marks
    else
      let r : Run := {
        marks, start := line, finish := nextClear marks (line + 1), other := nextClear others other }
      let r := r.settled classes others (classes.size + 1)
      let r := match r.meeting with
        | some finish => r.endedAt others finish (classes.size + 1)
        | none => r
      shiftFrom classes others fuel r.finish r.other r.marks

/-- Moves the runs of changed lines of a text. -/
def shifted (classes : Array Nat) (others marks : Array Bool) : Array Bool :=
  shiftFrom classes others (2 * classes.size + 2) 0 0 marks

/-! ## Scripts -/

/-- The changes that marked lines make up, from lines on. -/
def changesFrom (first second : Array Bool) : (fuel : Nat) → (line other : Nat) → List Change
  | 0, _, _ => []
  | fuel + 1, line, other =>
    if line ≥ first.size ∧ other ≥ second.size then []
    else
      let deleted := (nextClear first line - line).toNat
      let inserted := (nextClear second other - other).toNat
      if deleted = 0 ∧ inserted = 0 then changesFrom first second fuel (line + 1) (other + 1)
      else
        { line, other, deleted, inserted } ::
          changesFrom first second fuel (line + deleted + 1) (other + inserted + 1)

/-- The classes of the lines of two texts. -/
def classesOf (a b : Array String) : Texts :=
  let number (state : Std.HashMap String Nat × Array Nat) (line : String) :
      Std.HashMap String Nat × Array Nat :=
    match state.1[line]? with
    | some c => (state.1, state.2.push c)
    | none => (state.1.insert line state.1.size, state.2.push state.1.size)
  let (known, first) := a.foldl number (∅, #[])
  let (_, second) := b.foldl number (known, #[])
  { first, second }

/-- How many lines two lists have in common at their beginnings. -/
def commonCount : (a b : List String) → Nat
  | x :: a, y :: b => if x = y then commonCount a b + 1 else 0
  | _, _ => 0

/-- How two texts differ. -/
structure Options where
  /-- How many of the lines that both texts have at their ends may be looked at. -/
  horizon : Nat := 0
  minimal : Bool := false

/-- The changes from one list of lines to another one. Lines with the same key count as equal, but at
both ends of the texts equal lines are left out before. -/
def script (o : Options) (a b : List String) (key : String → String) : List Change :=
  let start := commonCount a b - o.horizon
  let a := a.drop start
  let b := b.drop start
  let tail := commonCount a.reverse b.reverse - o.horizon
  let first := ((a.take (a.length - tail)).map key).toArray
  let second := ((b.take (b.length - tail)).map key).toArray
  let t := classesOf first second
  let (firstMarks, secondMarks) := changedLines o.minimal t
  let firstMarks := shifted t.first secondMarks firstMarks
  let secondMarks := shifted t.second firstMarks secondMarks
  (changesFrom firstMarks secondMarks (first.size + second.size + 1) 0 0).map fun c =>
    { c with line := c.line + start, other := c.other + start }

end FileScript.Shell.Difference
