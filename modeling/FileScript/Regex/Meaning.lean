import FileScript.Regex.Reader
import FileScript.Regex.Size

/-!
# What regular expressions mean

An expression means a pattern. Switches change the meaning of what follows them, up to the end of
the group in which they stand.

Only plain letters are known here: the classes of letters, digits and white space of all scripts,
the properties of characters, and the cases of letters that are not plain are not available. What
needs them is a mistake unless the switch for Unicode is off.
-/

namespace FileScript.Regex

/-- The switches that change what an expression means. -/
structure Switches where
  ignoreCase : Bool := false
  multiLine : Bool := false
  dotMatchesLineEnd : Bool := false
  swapGreed : Bool := false
  unicode : Bool := true
  carriageReturn : Bool := false

namespace Switches

/-- The switches after a change. -/
def apply (s : Switches) (change : FlagChange) : Switches :=
  change.foldl (fun s (flag, on) =>
    match flag with
    | .ignoreCase => { s with ignoreCase := on }
    | .multiLine => { s with multiLine := on }
    | .dotMatchesLineEnd => { s with dotMatchesLineEnd := on }
    | .swapGreed => { s with swapGreed := on }
    | .unicode => { s with unicode := on }
    | .carriageReturn => { s with carriageReturn := on }
    | .ignoreSpace => s) s

end Switches

/-- The condition on a place. -/
def PlaceKind.place (s : Switches) : PlaceKind → Place
  | textStart => .textStart
  | textEnd => .textEnd
  | lineStart => if s.multiLine then .lineStart s.carriageReturn else .textStart
  | lineEnd => if s.multiLine then .lineEnd s.carriageReturn else .textEnd
  | words place => .words place s.unicode

/-! ## Classes -/

/-- A step of finding the meaning of an expression. -/
abbrev Meaning := Except Mistake

/-- Stops at a mistake. -/
def mistaken {α : Type} (kind : MistakeKind) (span : Span) : Meaning α := throw { kind, span }

/-- A set with its letters in all cases, if case is ignored. -/
def CharSet.folded (s : Switches) (set : CharSet) (span : Span) : Meaning CharSet :=
  if !s.ignoreCase then return set
  else if !s.unicode then return set.withPlainCases
  else if set.caseless then return set
  else mistaken .caseUnavailable span

/-- A set, or its complement. Where only bytes are known, the complement has bytes that are no
characters. -/
def CharSet.signed (s : Switches) (negated : Bool) (set : CharSet) (span : Span) :
    Meaning CharSet :=
  if !negated then return set
  else if s.unicode then return set.complement
  else mistaken .notUtf8 span

/-- The ranges of the plain letters. -/
def letterRanges : List CharRange := [⟨65, 90⟩, ⟨97, 122⟩]

/-- The range of the plain digits. -/
def digitRange : CharRange := ⟨48, 57⟩

/-- The ranges of plain white space. -/
def spaceRanges : List CharRange := [⟨9, 13⟩, ⟨32, 32⟩]

/-- The ranges of the characters of plain words. -/
def wordRanges : List CharRange := digitRange :: ⟨95, 95⟩ :: letterRanges

/-- The ranges of a class that is written with a letter. -/
def ShortClass.ranges : ShortClass → List CharRange
  | digit => [digitRange]
  | space => spaceRanges
  | word => wordRanges

/-- The members of a class that is written with a letter. -/
def ShortClass.members (s : Switches) (kind : ShortClass) (negated : Bool) (span : Span) :
    Meaning CharSet :=
  if s.unicode then mistaken .shortClassUnavailable span
  else CharSet.signed s negated (.ofRanges kind.ranges) span

/-- The ranges of a class that is written as in `[:alpha:]`. -/
def namedRanges (name : String) : List CharRange :=
  match name with
  | "alnum" => digitRange :: letterRanges
  | "alpha" => letterRanges
  | "ascii" => [⟨0, 127⟩]
  | "blank" => [⟨9, 9⟩, ⟨32, 32⟩]
  | "cntrl" => [⟨0, 31⟩, ⟨127, 127⟩]
  | "digit" => [digitRange]
  | "graph" => [⟨33, 126⟩]
  | "lower" => [⟨97, 122⟩]
  | "print" => [⟨32, 126⟩]
  | "punct" => [⟨33, 47⟩, ⟨58, 64⟩, ⟨91, 96⟩, ⟨123, 126⟩]
  | "space" => spaceRanges
  | "upper" => [⟨65, 90⟩]
  | "word" => wordRanges
  | _ => [digitRange, ⟨65, 70⟩, ⟨97, 102⟩]

/-- A name in the form in which names of properties are compared: in small letters, without blanks,
dashes, underscores and an `is` in front. -/
def normalizedName (name : String) : String :=
  let chars := name.toList
  let rest := if (chars.take 2).map Char.toLower = "is".toList then chars.drop 2 else chars
  String.ofList <| rest.filterMap fun c =>
    if c ∈ " _-".toList ∨ 128 ≤ c.toNat then none else some c.toLower

/-- The names that are looked for among the values of a property before all else. -/
def valueNames : List String := ["cf", "lc", "sc"]

/-- What is wrong with a class that is given by a property. -/
def PropertyClass.mistake (s : Switches) (p : PropertyClass) : MistakeKind :=
  if !s.unicode then .unicodeNotAllowed
  else if p.value.isNone ∧ normalizedName p.name ∈ valueNames then .propertyValueUnknown
  else .propertyUnknown

/-- The code point of a literal, as far as it may be used. -/
def Literal.checked (s : Switches) (l : Literal) (inClass : Bool) : Meaning Char := do
  if s.unicode || l.char.toNat < 128 then return l.char
  if l.isByte then mistaken .notUtf8 l.span
  if inClass then mistaken .unicodeNotAllowed l.span
  return l.char

namespace ClassSet

mutual

/-- The members of what stands between brackets. -/
def members (s : Switches) : ClassSet → Meaning CharSet
  | empty _ => return .empty
  | literal l => return .singleton (← l.checked s true)
  | range first last _ => do
    let first ← first.checked s true
    let last ← last.checked s true
    return .ofRanges [⟨first.toNat, last.toNat⟩]
  | named name negated span => do
    CharSet.signed s negated (← CharSet.folded s (.ofRanges (namedRanges name)) span) span
  | short kind negated span => kind.members s negated span
  | property p => mistaken (p.mistake s) p.span
  | bracketed negated set span => do
    CharSet.signed s negated (← CharSet.folded s (← set.members s) span) span
  | union sets _ => allMembers s .empty sets
  | operation op first second _ => do
    let left ← first.members s
    let right ← second.members s
    let right ← CharSet.folded s right second.span
    let left ← CharSet.folded s left first.span
    return match op with
      | .intersection => left.inter right
      | .difference => left.difference right
      | .symmetricDifference => left.symmetricDifference right

/-- The members of a set and of several more. -/
def allMembers (s : Switches) (found : CharSet) : List ClassSet → Meaning CharSet
  | [] => return found
  | set :: sets => do allMembers s (found.union (← set.members s)) sets

end

end ClassSet

/-! ## Expressions -/

/-- The pattern of a literal character. -/
def Literal.meaning (s : Switches) (l : Literal) : Meaning Pattern := do
  let char ← l.checked s false
  if s.ignoreCase && s.unicode then mistaken .caseUnavailable l.span
  if s.ignoreCase && char.isAlpha then
    return Pattern.ofRanges (CharSet.singleton char).withPlainCases.ranges
  return .literal [char]

/-- The ranges of the characters that a dot stands for. -/
def dotRanges (s : Switches) : List CharRange :=
  let lineEnds : CharSet :=
    if s.dotMatchesLineEnd then .empty
    else .ofRanges (⟨10, 10⟩ :: if s.carriageReturn then [⟨13, 13⟩] else [])
  lineEnds.complement.ranges

namespace Node

mutual

/-- The pattern that a part means, and the switches after it. -/
def meaning (s : Switches) : Node → Meaning (Pattern × Switches)
  | empty => return (.empty, s)
  | flags change => return (.empty, s.apply change)
  | literal l => return (← l.meaning s, s)
  | dot span => do
    unless s.unicode do mistaken .notUtf8 span
    return (.oneOf (dotRanges s), s)
  | place kind => return (.place (kind.place s), s)
  | short kind negated span => return (.ofRanges (← kind.members s negated span).ranges, s)
  | property p => mistaken (p.mistake s) p.span
  | bracketed negated set span =>
    return (.ofRanges (← (ClassSet.bracketed negated set span).members s).ranges, s)
  | group remembers change body _ => do
    let (pattern, _) ← body.meaning (s.apply change)
    return (if remembers then .group pattern else pattern, s)
  | concat parts _ => do
    let (patterns, s) ← allMeanings s parts
    return (.sequence patterns, s)
  | alternation branches _ => do
    let (patterns, s) ← allMeanings s branches
    return (.alternation patterns, s)
  | again body least most isLazy _ => do
    let (pattern, s) ← body.meaning s
    return (.repeated pattern least most (isLazy != s.swapGreed), s)

/-- The patterns that several parts mean, of which each leaves its switches to the next. -/
def allMeanings (s : Switches) : List Node → Meaning (List Pattern × Switches)
  | [] => return ([], s)
  | node :: nodes => do
    let (first, s) ← node.meaning s
    let (rest, s) ← allMeanings s nodes
    return (first :: rest, s)

end

end Node

/-- The pattern that an expression means, or a report of what is wrong with it. -/
def Pattern.ofExpression (expression : String) : Except String Pattern :=
  let result : Meaning Pattern := do
    let node ← Node.read expression
    return (← node.meaning {}).1
  let tooLarge := s!"Compiled regex exceeds size limit of {sizeLimit} bytes."
  match result with
  | .error mistake => .error (mistake.report expression)
  | .ok pattern =>
    if !pattern.fits .forward then .error tooLarge
    else if pattern.hasScriptWords then .error "error building NFA"
    else if !pattern.fits .backward then .error tooLarge
    else .ok pattern

end FileScript.Regex
