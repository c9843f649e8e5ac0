import FileScript.Shell.LinePattern.Syntax

/-!
# Where a pattern matches

A match begins as early in the text as it can, and is then as long as it can be. What the groups of
a pattern take is decided by preferences: the first of two choices, and one repetition more.
-/

namespace FileScript.Shell

namespace LinePattern

open Octets (Piece)

/-- How a text is searched. -/
structure Search where
  /-- Whether capital and small letters are the same. -/
  foldsCase : Bool := false
  /-- Whether every line of the text counts as one. -/
  byLines : Bool := false
  deriving DecidableEq, Repr, Inhabited

/-- A place in a text, on the way of a match. -/
structure Spot where
  index : Nat := 0
  before : Option Piece := none
  rest : List Piece
  /-- What the groups have taken. -/
  groups : List (Nat × List Piece) := []
  deriving Repr, Inhabited

namespace Spot

/-- The place behind the next character. -/
def next? (s : Spot) : Option (Piece × Spot) :=
  match s.rest with
  | [] => none
  | p :: rest => some (p, { s with index := s.index + 1, before := some p, rest })

/-- The place behind some characters, if they come next. -/
def after? (same : Piece → Piece → Bool) : List Piece → Spot → Option Spot
  | [], s => some s
  | p :: more, s =>
    match s.next? with
    | some (q, after) => if same q p then after? same more after else none
    | none => none

/-- What lies between a place and a later one. -/
def upTo (s later : Spot) : List Piece := s.rest.take (later.index - s.index)

end Spot

/-- A character in the other case, if it has one. -/
def otherCase (c : Char) : Char :=
  if c.toNat < 128 then if c.isUpper then c.toLower else c.toUpper
  else
    let code := c.toNat
    let partner (n : Nat) : Char := Char.ofNat n
    match Unicode.Category.of c with
    | ⟨'L', 'u'⟩ =>
      if code < 0xdf ∨ 0x391 ≤ code ∧ code ≤ 0x3a9 ∨ 0x410 ≤ code ∧ code ≤ 0x42f then
        partner (code + 32)
      else if 0x400 ≤ code ∧ code < 0x410 then partner (code + 80)
      else partner (code + 1)
    | ⟨'L', 'l'⟩ =>
      if 0xdf < code ∧ code < 0xff ∨ 0x3b1 ≤ code ∧ code ≤ 0x3c9 ∨ 0x430 ≤ code ∧ code ≤ 0x44f then
        partner (code - 32)
      else if 0x450 ≤ code ∧ code < 0x460 then partner (code - 80)
      else partner (code - 1)
    | _ => c

/-- Whether a member of a list covers a character. -/
def Member.covers (p : Piece) : Member → Bool
  | piece own => own = p
  | range low high => match p with
    | .char c => low ≤ c && c ≤ high
    | .byte _ => false
  | kind k => match p with
    | .char c => k.covers c
    | .byte _ => false

namespace Search

/-- Whether a condition holds for a character, in one of its cases. -/
def holdsFor (search : Search) (p : Piece) (holds : Piece → Bool) : Bool :=
  holds p || (search.foldsCase && match p with
    | .char c => holds (.char (otherCase c))
    | .byte _ => false)

/-- Whether two characters count as the same. -/
def same (search : Search) (a b : Piece) : Bool := search.holdsFor a (· = b)

end Search

/-- Whether a character can be a part of a word. -/
def isWordPiece : Piece → Bool
  | .char c => c = '_' || Kind.alnum.covers c
  | .byte _ => false

/-- Whether a condition holds at a place. -/
def Anchor.holds (search : Search) (s : Spot) (a : Anchor) : Bool :=
  let inWord := s.before.any isWordPiece
  let atWord := s.rest.head?.any isWordPiece
  match a with
  | .textStart => s.before.isNone
  | .textEnd => s.rest.isEmpty
  | .lineStart => s.before.isNone || (search.byLines && s.before = some (.char '\n'))
  | .lineEnd => s.rest.isEmpty || (search.byLines && s.rest.head? = some (.char '\n'))
  | .wordStart => !inWord && atWord
  | .wordEnd => inWord && !atWord
  | .wordEdge => inWord != atWord
  | .noWordEdge => inWord == atWord

/-- Of several ways to the same place, the first one. With `exact`, the groups matter too. -/
def distinct (exact : Bool) (spots : List Spot) : List Spot :=
  let same (a b : Spot) : Bool := a.index = b.index && (!exact || a.groups = b.groups)
  (spots.foldl (fun kept s => if kept.any (same s) then kept else s :: kept) []).reverse

/-- A step in trying out repetitions. -/
inductive Attempt where
  /-- Goes on at a place that so many repetitions have led to. -/
  | visit (count : Nat) (s : Spot)
  /-- Takes a place for an end. -/
  | accept (s : Spot)

/-- The places to which repetitions lead, more of them first. Repetitions that take nothing are made
only as far as they are asked for. -/
def repetitions (exact : Bool) (step : Spot → List Spot) (least : Nat) (most : Option Nat) :
    (fuel : Nat) → List Attempt → (seen : List (Nat × Spot)) → (found : List Spot) → List Spot
  | 0, _, _, found | _, [], _, found => found.reverse
  | fuel + 1, .accept s :: rest, seen, found =>
    repetitions exact step least most fuel rest seen (s :: found)
  | fuel + 1, .visit count s :: rest, seen, found =>
    let known := seen.any fun (n, other) =>
      n = count && other.index = s.index && (!exact || other.groups = s.groups)
    if known then repetitions exact step least most fuel rest seen found
    else
      let following := if most = some count then [] else step s
      let following := following.filter fun after => count < least || s.index < after.index
      let next := if most.isSome then count + 1 else min (count + 1) least
      let visits := following.map (.visit next)
      let accepted := if least ≤ count then [.accept s] else []
      repetitions exact step least most fuel (visits ++ accepted ++ rest) ((count, s) :: seen) found

/-- The places at which matches of a pattern end, the preferred ones first. -/
def ends (search : Search) (exact : Bool) : Expression → Spot → List Spot
  | .empty, s => [s]
  | .piece p, s =>
    match s.next? with
    | some (q, after) => if search.same q p then [after] else []
    | none => []
  | .any, s =>
    match s.next? with
    | some (.char c, after) => if c = '\x00' then [] else [after]
    | _ => []
  | .list negated members, s =>
    match s.next? with
    | some (p, after) =>
      let covered := search.holdsFor p fun p => members.any (·.covers p)
      let isByte := match p with
        | .byte _ => true
        | .char _ => false
      if covered != negated ∧ !(negated && isByte) then [after] else []
    | none => []
  | .anchor a, s => if a.holds search s then [s] else []
  | .group number inner, s =>
    (ends search exact inner s).map fun after =>
      let others := after.groups.filter (·.1 ≠ number)
      { after with groups := (number, s.upTo after) :: others }
  | .again number, s =>
    ((s.groups.lookup number).bind fun taken => s.after? search.same taken).toList
  | .both a b, s => distinct exact ((ends search exact a s).flatMap (ends search exact b))
  | .either a b, s => distinct exact (ends search exact a s ++ ends search exact b s)
  | .times inner least most, s =>
    let size := s.rest.length + 2
    let counts := (most.getD 0) + least + 2
    let fuel := counts * size * (size + 2)
    distinct exact (repetitions exact (ends search exact inner) least most fuel [.visit 0 s] [] [])

/-- A match: the places where it begins and where it ends. -/
structure Match where
  start : Spot
  stop : Spot
  deriving Repr, Inhabited

namespace Match

/-- What a match takes. -/
def text (m : Match) : List Piece := m.start.upTo m.stop

/-- What a group takes in a match. Zero stands for the whole. -/
def group (m : Match) (number : Nat) : List Piece :=
  if number = 0 then m.text else (m.stop.groups.lookup number).getD []

end Match

/-- The longest of some matches that begin at a place. -/
def longest? (start : Spot) (stops : List Spot) : Option Match :=
  let best := stops.foldl (fun best s =>
    match best with
    | none => some s
    | some (b : Spot) => some (if b.index < s.index then s else b)) none
  best.map fun stop => { start, stop }

/-- The first match at a place or behind it, among those that are accepted. -/
def Expression.findFrom (e : Expression) (search : Search) (accepts : Spot → Spot → Bool) :
    Nat → Spot → Option Match
  | 0, _ => none
  | fuel + 1, s =>
    match longest? s ((ends search e.looksBack e s).filter (accepts s)) with
    | some found => some found
    | none => s.next?.bind fun (_, after) => e.findFrom search accepts fuel after

/-- The first match at a place or behind it. -/
def Expression.find? (e : Expression) (search : Search) (s : Spot) : Option Match :=
  e.findFrom search (fun _ _ => true) (s.rest.length + 1) s

/-- The place at the beginning of a text. -/
def Spot.ofText (text : List Piece) : Spot := { rest := text }

/-- Whether a pattern matches somewhere in a text. -/
def Expression.occursIn (e : Expression) (search : Search) (text : List Piece) : Bool :=
  (e.find? search (.ofText text)).isSome

/-- The matches in a text, one behind the other. An empty match directly behind another one does not
count. -/
def Expression.findAll (e : Expression) (search : Search) : Nat → (last : Option Nat) → Spot →
    List Match
  | 0, _, _ => []
  | fuel + 1, last, s =>
    match e.find? search s with
    | none => []
    | some m =>
      let isEmpty := m.start.index = m.stop.index
      let found := if isEmpty ∧ last = some m.start.index then [] else [m]
      let stop := { m.stop with groups := [] }
      let next := if isEmpty then stop.next?.map (·.2) else some stop
      match next with
      | none => found
      | some next => found ++ e.findAll search fuel (some m.stop.index) next

/-- The matches in a text. -/
def Expression.matchesIn (e : Expression) (search : Search) (text : List Piece) : List Match :=
  e.findAll search (text.length + 2) none (.ofText text)

end LinePattern

end FileScript.Shell
