import FileScript.Regex.Pattern
import Std.Data.HashMap

/-!
# How large a pattern is

A pattern is searched for by a machine that reads text byte by byte, once forwards and once
backwards. The size of the machine is what counts against the limit on patterns. Each state of it
takes `stateSize` bytes, each move of a state that tells bytes apart `moveSize` more, and each way
out of a state that chooses between ways `choiceSize` more.

States are numbered in the order in which they are made. A state that reads a byte of a character is
made once for all characters of a class that need it, as far as it is found again in a table of
bounded size: what is kept under the same slot is forgotten.
-/

namespace FileScript.Regex

/-- The size of a state. -/
def stateSize : Nat := 32

/-- The size of a move from a state that tells bytes apart. -/
def moveSize : Nat := 8

/-- The size of a way out of a state that chooses between ways. -/
def choiceSize : Nat := 4

/-- The size of a state that tells so many ranges of bytes apart. -/
def movesSize (count : Nat) : Nat := stateSize + moveSize * count

/-- The size of a state that chooses between so many ways. -/
def choicesSize (count : Nat) : Nat := stateSize + choiceSize * count

/-- In which direction text is read. -/
inductive Direction where
  | forward
  | backward
  deriving DecidableEq, Repr, Inhabited

/-! ## Building -/

/-- How large the machines for a pattern may be, in bytes. -/
def sizeLimit : Nat := 10485760

/-- What has been built of a machine: the number of its states, and its size. -/
structure Tally where
  states : Nat := 0
  size : Nat := 0
  deriving DecidableEq, Repr, Inhabited

/-- Builds a part of a machine. This fails when the machine becomes too large. -/
abbrev Build := StateT Tally Option

/-- Adds a state of a size, and yields its number. -/
def addState (size : Nat) : Build Nat := do
  let t ← get
  if sizeLimit < t.size + size then failure
  set { states := t.states + 1, size := t.size + size : Tally }
  return t.states

/-- Adds a state that reads nothing, or one byte. -/
def addPlain : Build Unit := discard (addState stateSize)

/-- Adds a state that chooses between so many ways. -/
def addChoice (ways : Nat) : Build Unit := discard (addState (choicesSize ways))

/-- Builds something so many times. -/
def times (part : Build Unit) : Nat → Build Unit
  | 0 => pure ()
  | n + 1 => do
    part
    times part n

/-! ## Bytes of characters -/

/-- A range of bytes. -/
abbrev ByteRange := UInt8 × UInt8

/-- The last code points of which the encodings have one, two and three bytes. -/
def lengthEnds : List Nat := [0x7f, 0x7ff, 0xffff]

/-- The last code point of the first part of a range that has to be cut, so that the encodings of
each part differ independently of each other in every byte. -/
def cutAt? (low high : Nat) : Option Nat :=
  match lengthEnds.find? fun last => low ≤ last && last < high with
  | some last => some last
  | none =>
    if high < 128 then none
    else [0x40, 0x1000, 0x40000].findSome? fun block =>
      if low / block = high / block then none
      else if low % block ≠ 0 then some (low / block * block + block - 1)
      else if high % block ≠ block - 1 then some (high / block * block - 1)
      else none

/-- The encodings of a range of code points, as sequences of ranges of bytes. -/
def sequencesOf : Nat → Nat → Nat → List (List ByteRange)
  | 0, _, _ => []
  | fuel + 1, low, high =>
    if high < low then []
    else match cutAt? low high with
      | some last => sequencesOf fuel low last ++ sequencesOf fuel (last + 1) high
      | none =>
        let first := String.utf8EncodeChar (Char.ofNat low)
        [first.zip (String.utf8EncodeChar (Char.ofNat high))]

/-- The encodings of a range of characters. -/
def CharRange.sequences (r : CharRange) : List (List ByteRange) :=
  sequencesOf 32 r.low (min r.high lastLow) ++ sequencesOf 32 (max r.low firstHigh) r.high

/-- Puts sequences that begin alike and stand side by side together, without their beginnings. -/
def groupedByFirst : List (List ByteRange) → List (ByteRange × List (List ByteRange))
  | [] => []
  | [] :: rest => groupedByFirst rest
  | (range :: more) :: rest =>
    match groupedByFirst rest with
    | (next, group) :: groups =>
      if next = range then (range, more :: group) :: groups
      else (range, [more]) :: (next, group) :: groups
    | [] => [(range, [more])]

/-- The moves of a state that tells bytes apart, each to a state with a number. -/
abbrev Moves := List (ByteRange × Nat)

/-- The states that are known by what they do, each in a slot of a table. -/
abbrev Slots (α : Type) := Std.HashMap Nat (α × Nat)

/-- The slot for some numbers in a table of a size. -/
def slotOf (size : Nat) (numbers : List UInt64) : Nat :=
  let mixed := numbers.foldl (fun h n => (h ^^^ n) * 1099511628211) 14695981039346656037
  mixed.toNat % size

/-- The state that is known for a key, if its slot still holds it. -/
def Slots.find? {α : Type} [DecidableEq α] (slots : Slots α) (slot : Nat) (key : α) : Option Nat :=
  match slots[slot]? with
  | some (kept, state) => if kept = key then some state else none
  | none => none

/-- The slot of a state with the given moves. -/
def slotOfMoves (moves : Moves) : Nat :=
  slotOf 10000 (moves.flatMap fun ((low, high), next) =>
    [low.toUInt64, high.toUInt64, next.toUInt64])

/-- Adds the states that read any of several sequences and lead to a state with a number. Yields the
number of the state to begin with. -/
def addSequences (goal : Nat) : Nat → List (List ByteRange) → StateT (Slots Moves) Build Nat
  | 0, _ => return goal
  | fuel + 1, sequences => do
    if sequences = [[]] then return goal
    let moves ← (groupedByFirst sequences).mapM fun (range, rests) =>
      return (range, ← addSequences goal fuel rests)
    let slot := slotOfMoves moves
    match (← get).find? slot moves with
    | some state => return state
    | none =>
      let state ← addState (movesSize moves.length)
      modify (·.insert slot (moves, state))
      return state

/-- Adds the states that read a sequence, its last byte first, and lead to a state with a number.
Yields the number of the state to begin with. -/
def addBackwards (goal : Nat) : List ByteRange → StateT (Slots (Nat × ByteRange)) Build Nat
  | [] => return goal
  | (low, high) :: rest => do
    let key := (goal, low, high)
    let slot := slotOf 1000 [goal.toUInt64, low.toUInt64, high.toUInt64]
    match (← get).find? slot key with
    | some state => addBackwards state rest
    | none =>
      let state ← addState stateSize
      modify (·.insert slot (key, state))
      addBackwards state rest

/-- Adds the states for a class. -/
def addClass (direction : Direction) (ranges : List CharRange) : Build Unit := do
  if ranges.all (·.high < 128) then
    addPlain
    discard (addState (movesSize ranges.length))
  else
    let sequences := ranges.flatMap (·.sequences)
    match direction with
    | .forward =>
      let goal ← addState stateSize
      discard ((addSequences goal 5 sequences).run ∅)
    | .backward =>
      addChoice sequences.length
      let goal ← addState stateSize
      discard ((sequences.forM fun sequence => discard (addBackwards goal sequence)).run ∅)

/-! ## Alternatives that are all literals -/

/-- Cuts a list of texts at the empty ones. -/
def cutAtEmpty (texts : List (List UInt8)) : List (List (List UInt8)) :=
  texts.foldr (fun text parts =>
    match text, parts with
    | [], parts => [] :: parts
    | text, part :: parts => (text :: part) :: parts
    | text, [] => [[text]]) [[]]

/-- The parts without the second and more of the empty ones at the beginning. -/
def dropRepeatedEmpty : List (List (List UInt8)) → List (List (List UInt8))
  | [] :: [] :: rest => dropRepeatedEmpty ([] :: rest)
  | parts => parts

/-- Adds the states that read one of several texts. Where a text ends, the ones that come behind it
in the list are read by states of their own. -/
def addTexts : Nat → List (List UInt8) → Build Unit
  | 0, _ => return
  | fuel + 1, texts => do
    let parts := dropRepeatedEmpty (cutAtEmpty texts)
    let heads := parts.map fun part => (part.filterMap List.head?).eraseDups
    if heads.all List.isEmpty then return
    (parts.zip heads).forM fun (part, bytes) => do
      bytes.forM fun byte =>
        addTexts fuel (part.filterMap fun text =>
          if text.head? = some byte then some text.tail else none)
      if bytes.length = 1 then addPlain
      else if bytes ≠ [] then discard (addState (movesSize bytes.length))
    addChoice ((heads.filter (· ≠ [])).length + (parts.length - 1))

/-- The bytes of a literal, in the order in which they are read. -/
def literalBytes (direction : Direction) (chars : List Char) : List UInt8 :=
  let bytes := chars.flatMap String.utf8EncodeChar
  match direction with
  | .forward => bytes
  | .backward => bytes.reverse

/-! ## Patterns -/

namespace Pattern

/-- The bytes of a literal. -/
def literalBytes? (direction : Direction) : Pattern → Option (List UInt8)
  | literal chars => some (literalBytes direction chars)
  | _ => none

/-- Adds the states for a repetition of a part, which may have stretches without length. -/
def addAgain (part : Build Unit) (mayBeFlat : Bool) (least : Nat) : Option Nat → Build Unit
  | none => do
    if least = 0 then
      if mayBeFlat then
        part
        times (addChoice 2) 2
        addPlain
      else
        addChoice 2
        part
    else
      times part least
      addChoice 2
  | some most => do
    if least = 0 ∧ most = 1 then
      addChoice 2
      part
      addPlain
    else
      if least = 0 then addPlain else times part least
      if least ≠ most then
        addPlain
        times (do addChoice 2; part) (most - least)

mutual

/-- Adds the states for a pattern. -/
def add (direction : Direction) : Pattern → Build Unit
  | empty | place _ => addPlain
  | literal chars => times addPlain (max 1 (literalBytes direction chars).length)
  | oneOf ranges => addClass direction ranges
  | again body least most _ =>
    addAgain (body.add direction) (body.shortest.all (· = 0)) least most
  | group body => do
    if direction = .forward then addPlain
    body.add direction
    if direction = .forward then addPlain
  | seq parts => addAll direction parts
  | alt branches => do
    match branches.mapM (literalBytes? direction) with
    | some texts =>
      addPlain
      addTexts ((texts.map List.length).foldl max 0 + 1) texts
    | none => addBranches direction branches.length 0 branches

/-- Adds the states for several patterns, in the order in which text is read. -/
def addAll (direction : Direction) : List Pattern → Build Unit
  | [] => pure ()
  | p :: ps =>
    match direction with
    | .forward => do
      p.add direction
      addAll direction ps
    | .backward => do
      addAll direction ps
      p.add direction

/-- Adds the states for branches. The ways to them and from them are made as soon as there are two
branches. -/
def addBranches (direction : Direction) (ways : Nat) : (built : Nat) → List Pattern → Build Unit
  | _, [] => pure ()
  | built, p :: ps => do
    p.add direction
    if built = 1 then
      addChoice ways
      addPlain
    addBranches direction ways (built + 1) ps

end

/-- Adds the states that look for the place where a stretch may begin. -/
def addSeeking (isFixed : Bool) : Build Unit := do
  if isFixed then addPlain
  else
    addChoice 2
    addPlain
    discard (addState (movesSize 1))

/-- The machine that finds where stretches end, or where they begin. -/
def machine (direction : Direction) (p : Pattern) : Build Unit := do
  match direction with
  | .forward =>
    addSeeking p.startsText
    (group p).add direction
  | .backward =>
    addSeeking p.endsText
    p.add direction
  addPlain

/-- Whether the machine for a pattern is not too large. -/
def fits (direction : Direction) (p : Pattern) : Bool := ((p.machine direction).run {}).isSome

end Pattern

end FileScript.Regex
