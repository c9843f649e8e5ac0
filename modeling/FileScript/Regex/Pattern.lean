import FileScript.Regex.CharSet
import FileScript.Regex.Syntax

/-!
# Patterns and where they match

A pattern describes stretches of text. Patterns are built so that they stay simple: literals that
follow each other become one, alternatives that are single characters become a class, and a
beginning that all alternatives share is taken out of them.

To find out whether a text has a stretch that a pattern describes, sets of places in the text are
followed through the pattern: `Marked.ends` takes the places where a stretch may begin to the places
where it may end. A set of places is a number, in which the bit of each place that belongs to it is
set; the place `i` is the one before the character with the index `i`, and the last place is at the
end of the text.
-/

namespace FileScript.Regex

/-- A condition on a place between characters. -/
inductive Place where
  | textStart
  | textEnd
  /-- The start of a line. Carriage returns may end lines too. -/
  | lineStart (returns : Bool)
  | lineEnd (returns : Bool)
  /-- A place at a word, in which letters of all scripts may stand or plain letters only. -/
  | words (place : WordPlace) (allScripts : Bool)
  deriving DecidableEq, Repr, Inhabited

/-- Whether a character may stand in a word, if only plain letters are known. -/
def isPlainWord (c : Char) : Bool := c.isAlphanum || c = '_'

/-- Whether a place is what it has to be, by the sides on which a word is. -/
def WordPlace.holds : WordPlace → Bool → Bool → Bool
  | edge, before, behind => before != behind
  | noEdge, before, behind => before == behind
  | start, before, behind => !before && behind
  | stop, before, behind => before && !behind
  | startHalf, before, _ => !before
  | stopHalf, _, behind => !behind

/-- Whether a place between two characters meets a condition. At the ends of the text, one of them
is missing. -/
def Place.holds (place : Place) (before behind : Option Char) : Bool :=
  match place with
  | textStart => before.isNone
  | textEnd => behind.isNone
  | lineStart false => before.all (· = '\n')
  | lineEnd false => behind.all (· = '\n')
  | lineStart true => before.all (· = '\n') || (before = some '\r' && behind ≠ some '\n')
  | lineEnd true => behind.all (· = '\r') || (behind = some '\n' && before ≠ some '\r')
  | words place _ => place.holds (before.any isPlainWord) (behind.any isPlainWord)

/-- What a stretch of text has to look like. -/
inductive Pattern where
  /-- Nothing. -/
  | empty
  /-- Exactly these characters. -/
  | literal (chars : List Char)
  /-- A character of some ranges, which are ascending and have gaps between them. -/
  | oneOf (ranges : List CharRange)
  /-- Nothing, at a place that meets a condition. -/
  | place (place : Place)
  /-- A pattern again and again, at least and at most so often. -/
  | again (body : Pattern) (least : Nat) (most : Option Nat) (isLazy : Bool)
  /-- A pattern of which it is remembered what it matched. -/
  | group (body : Pattern)
  /-- Patterns one after the other. -/
  | seq (parts : List Pattern)
  /-- One of several patterns. -/
  | alt (branches : List Pattern)
  deriving Inhabited

namespace Pattern

/-! ## Comparing -/

mutual

/-- Whether two patterns are the same. Groups differ, because each has a memory of its own. -/
def same : Pattern → Pattern → Bool
  | empty, empty => true
  | literal a, literal b => a = b
  | oneOf a, oneOf b => a = b
  | place a, place b => a = b
  | again a least most isLazy, again b least' most' isLazy' =>
    least = least' && most = most' && isLazy == isLazy' && same a b
  | seq a, seq b => sameAll a b
  | alt a, alt b => sameAll a b
  | _, _ => false

/-- Whether two lists have the same patterns. -/
def sameAll : List Pattern → List Pattern → Bool
  | [], [] => true
  | a :: as, b :: bs => same a b && sameAll as bs
  | _, _ => false

end

/-- The patterns with which two lists begin alike. -/
def commonStart : List Pattern → List Pattern → List Pattern
  | a :: as, b :: bs => if same a b then a :: commonStart as bs else []
  | _, _ => []

/-! ## Lengths -/

/-- The length of a character in bytes. -/
def codeSize (code : Nat) : Nat :=
  if code < 0x80 then 1 else if code < 0x800 then 2 else if code < 0x10000 then 3 else 4

mutual

/-- How many bytes a stretch has at least; nothing if there is no stretch. -/
def shortest : Pattern → Option Nat
  | empty | place _ => some 0
  | literal chars => some (chars.foldl (fun n c => n + c.utf8Size) 0)
  | oneOf ranges => ranges.head?.map fun r => codeSize r.low
  | again body least _ _ => body.shortest.map (· * least)
  | group body => body.shortest
  | seq parts => shortestSeq parts
  | alt branches => shortestAlt branches

/-- How many bytes a stretch of several patterns one after the other has at least. -/
def shortestSeq : List Pattern → Option Nat
  | [] => some 0
  | p :: ps =>
    match p.shortest, shortestSeq ps with
    | some m, some n => some (m + n)
    | _, _ => none

/-- How many bytes a stretch of one of several patterns has at least. -/
def shortestAlt : List Pattern → Option Nat
  | [] => none
  | [p] => p.shortest
  | p :: ps =>
    match p.shortest, shortestAlt ps with
    | some m, some n => some (min m n)
    | _, _ => none

end

mutual

/-- How many bytes a stretch has at most; nothing if there is no bound or no stretch. -/
def longest : Pattern → Option Nat
  | empty | place _ => some 0
  | literal chars => some (chars.foldl (fun n c => n + c.utf8Size) 0)
  | oneOf ranges => ranges.getLast?.map fun r => codeSize r.high
  | again body _ most _ =>
    match most, body.longest with
    | some m, some n => some (m * n)
    | _, _ => none
  | group body => body.longest
  | seq parts => longestSeq parts
  | alt branches => longestAlt branches

/-- How many bytes a stretch of several patterns one after the other has at most. -/
def longestSeq : List Pattern → Option Nat
  | [] => some 0
  | p :: ps =>
    match p.longest, longestSeq ps with
    | some m, some n => some (m + n)
    | _, _ => none

/-- How many bytes a stretch of one of several patterns has at most. -/
def longestAlt : List Pattern → Option Nat
  | [] => none
  | [p] => p.longest
  | p :: ps =>
    match p.longest, longestAlt ps with
    | some m, some n => some (max m n)
    | _, _ => none

end

/-! ## Building -/

/-- A character of some ranges. -/
def ofRanges : List CharRange → Pattern
  | [⟨low, high⟩] => if low = high then literal [Char.ofNat low] else oneOf [⟨low, high⟩]
  | ranges => oneOf ranges

/-- A pattern repeated. What has no length need not be repeated more than once. -/
def repeated (body : Pattern) (least : Nat) (most : Option Nat) (isLazy : Bool) : Pattern :=
  let flat := body.longest = some 0
  let least := if flat then min least 1 else least
  let most := if flat then some (min (most.getD 1) 1) else most
  if most = some 0 then empty
  else if least = 1 ∧ most = some 1 then body
  else again body least most isLazy

/-- The parts of which a pattern is a sequence. -/
def parts : Pattern → List Pattern
  | empty => []
  | seq parts => parts
  | p => [p]

/-- Makes one literal out of literals that follow each other. -/
def mergeLiterals : List Pattern → List Pattern
  | [] => []
  | literal a :: rest =>
    match mergeLiterals rest with
    | literal b :: more => literal (a ++ b) :: more
    | more => literal a :: more
  | p :: rest => p :: mergeLiterals rest

/-- Patterns one after the other. -/
def sequence (patterns : List Pattern) : Pattern :=
  match mergeLiterals (patterns.flatMap parts) with
  | [] => empty
  | [p] => p
  | parts => seq parts

/-- The patterns between which a pattern is a choice. -/
def branches : Pattern → List Pattern
  | alt branches => branches
  | p => [p]

/-- The character that is all that a pattern describes. -/
def soleChar? : Pattern → Option CharRange
  | literal [c] => some ⟨c.toNat, c.toNat⟩
  | _ => none

/-- The ranges of a class. -/
def ranges? : Pattern → Option (List CharRange)
  | oneOf ranges => some ranges
  | _ => none

/-- One of several patterns, when they are not choices themselves and do not begin alike. -/
def choice (branches : List Pattern) : Pattern :=
  match branches with
  | [] => oneOf []
  | [p] => p
  | branches =>
    match branches.mapM soleChar? with
    | some chars => ofRanges (CharRange.arranged chars)
    | none =>
      match branches.mapM ranges? with
      | some ranges => ofRanges (CharRange.arranged ranges.flatten)
      | none => alt branches

/-- The parts with which all of several sequences begin; none if one of them is no sequence. -/
def sharedStart : List Pattern → List Pattern
  | seq parts :: rest =>
    rest.foldl (fun start p => match p with
      | seq parts => commonStart start parts
      | _ => []) parts
  | _ => []

/-- One of several patterns. -/
def alternation (patterns : List Pattern) : Pattern :=
  let branches := patterns.flatMap branches
  match choice branches with
  | alt branches =>
    let start := sharedStart branches
    if start.isEmpty then alt branches
    else
      let rests := branches.map fun p => sequence (p.parts.drop start.length)
      sequence (start ++ [choice (rests.flatMap Pattern.branches)])
  | p => p

/-! ## Conditions -/

mutual

/-- Whether a condition about words of all scripts stands in a pattern. -/
def hasScriptWords : Pattern → Bool
  | place (.words _ allScripts) => allScripts
  | again body _ _ _ | group body => body.hasScriptWords
  | seq parts | alt parts => anyScriptWords parts
  | _ => false

/-- Whether a condition about words of all scripts stands in one of several patterns. -/
def anyScriptWords : List Pattern → Bool
  | [] => false
  | p :: ps => p.hasScriptWords || anyScriptWords ps

end

mutual

/-- Whether a stretch can only begin at the start of the text, as far as that is plain to see. -/
def startsText : Pattern → Bool
  | place .textStart => true
  | again body least _ _ => least ≠ 0 && body.startsText
  | group body => body.startsText
  | seq parts => startsTextSeq parts
  | alt branches => startsTextAlt branches
  | _ => false

/-- Whether one of the parts that may stand at the start of a stretch has to begin the text. -/
def startsTextSeq : List Pattern → Bool
  | [] => false
  | p :: ps => p.startsText || (p.longest = some 0 && startsTextSeq ps)

/-- Whether all of several patterns have to begin the text. -/
def startsTextAlt : List Pattern → Bool
  | [] => true
  | p :: ps => p.startsText && startsTextAlt ps

end

mutual

/-- Whether a stretch can only end at the end of the text, as far as that is plain to see. -/
def endsText : Pattern → Bool
  | place .textEnd => true
  | again body least _ _ => least ≠ 0 && body.endsText
  | group body => body.endsText
  | seq parts => (endsTextSeq parts).1
  | alt branches => endsTextAlt branches
  | _ => false

/-- Whether one of the parts that may stand at the end of a stretch has to end the text, and whether
all the parts have no length. -/
def endsTextSeq : List Pattern → Bool × Bool
  | [] => (false, true)
  | p :: ps =>
    let (found, flat) := endsTextSeq ps
    (found || (flat && p.endsText), flat && p.longest = some 0)

/-- Whether all of several patterns have to end the text. -/
def endsTextAlt : List Pattern → Bool
  | [] => true
  | p :: ps => p.endsText && endsTextAlt ps

end

end Pattern

/-! ## Matching -/

/-- A pattern with regard to one text: its classes and conditions are replaced by the sets of places
at which they apply. -/
inductive Marked where
  /-- Goes on from a place in a set to the next place. -/
  | step (places : Nat)
  /-- Stays at a place in a set. -/
  | stay (places : Nat)
  | seq (first second : Marked)
  | alt (first second : Marked)
  | again (body : Marked) (least : Nat) (most : Option Nat)

namespace Places

/-- The set of the places from zero up to `count`, without `count`, that meet a condition. -/
def select (count : Nat) (holds : Nat → Bool) : Nat :=
  count.fold (fun i _ set => if holds i then set ||| 1 <<< i else set) 0

/-- The places of one set that are not in another. -/
def without (set other : Nat) : Nat := set ^^^ (set &&& other)

/-- The places that a step reaches from a set when it is taken `count` times. -/
def iterate (step : Nat → Nat) : Nat → Nat → Nat
  | 0, set => set
  | count + 1, set => if set = 0 then 0 else iterate step count (step set)

/-- The places in `reached` and those that a step reaches from `fresh` when it is taken at most
`count` times. -/
def closure (step : Nat → Nat) : Nat → Nat → Nat → Nat
  | 0, _, reached => reached
  | count + 1, fresh, reached =>
    let next := without (step fresh) reached
    if next = 0 then reached else closure step count next (reached ||| next)

end Places

namespace Marked

/-- The places where a stretch may end that begins at one of the given places. `length` is the
length of the text. -/
def ends (length : Nat) : Marked → Nat → Nat
  | step places, set => (set &&& places) <<< 1
  | stay places, set => set &&& places
  | seq first second, set => second.ends length (first.ends length set)
  | alt first second, set => first.ends length set ||| second.ends length set
  | again body least most, set =>
    let start := Places.iterate (body.ends length) least set
    Places.closure (body.ends length) ((most.map (· - least)).getD (length + 1)) start start

end Marked

namespace Pattern

mutual

/-- Marks the places of a text at which the classes and conditions of a pattern apply. -/
def mark (text : Array Char) : Pattern → Marked
  | empty => .stay (Places.select (text.size + 1) fun _ => true)
  | literal chars =>
    chars.foldr (fun c rest => .seq (.step (Places.select text.size (text[·]? = some c))) rest)
      (.stay (Places.select (text.size + 1) fun _ => true))
  | oneOf ranges =>
    .step (Places.select text.size fun i => text[i]?.any fun c => ranges.any (·.contains c.toNat))
  | place condition =>
    .stay (Places.select (text.size + 1) fun i =>
      condition.holds (if i = 0 then none else text[i - 1]?) text[i]?)
  | again body least most _ => .again (body.mark text) least most
  | group body => body.mark text
  | seq parts => markSeq text parts
  | alt branches => markAlt text branches

/-- Marks patterns that follow each other. -/
def markSeq (text : Array Char) : List Pattern → Marked
  | [] => .stay (Places.select (text.size + 1) fun _ => true)
  | p :: ps => .seq (p.mark text) (markSeq text ps)

/-- Marks patterns of which one has to match. -/
def markAlt (text : Array Char) : List Pattern → Marked
  | [] => .stay 0
  | p :: ps => .alt (p.mark text) (markAlt text ps)

end

/-- Whether a text has a stretch that a pattern describes. -/
def occursIn (p : Pattern) (text : String) : Bool :=
  let chars := text.toList.toArray
  let everywhere := Places.select (chars.size + 1) fun _ => true
  (p.mark chars).ends chars.size everywhere ≠ 0

end Pattern

end FileScript.Regex
