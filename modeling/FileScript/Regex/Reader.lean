import FileScript.Regex.Syntax
import FileScript.Unicode.Alphabetic

/-!
# Reading regular expressions

A reader walks along an expression and stops at the first mistake. White space and comments are
skipped where the expression asks for that.
-/

namespace FileScript.Regex

open FileScript.Unicode

/-- How far an expression has been read. -/
structure Cursor where
  /-- What has not been read yet. -/
  rest : List Char
  point : Point := {}
  /-- Whether white space and comments are skipped. -/
  skipsSpace : Bool := false
  /-- The names of groups so far, with their places. -/
  names : List (String × Span) := []

/-- A step of reading. -/
abbrev Reader := StateT Cursor (Except Mistake)

/-- The point after a character. -/
def Point.after (p : Point) (c : Char) : Point :=
  if c = '\n' then { line := p.line + 1 } else { p with column := p.column + 1 }

namespace Reader

/-! ## Moving along -/

/-- Stops at a mistake between two points. -/
def fail {α : Type} (kind : MistakeKind) (first last : Point) : Reader α :=
  throw { kind, span := ⟨first, last⟩ }

/-- Where the reader stands. -/
def here : Reader Point := return (← get).point

/-- The next character. -/
def next? : Reader (Option Char) := return (← get).rest.head?

/-- Whether nothing is left. -/
def atEnd : Reader Bool := return (← get).rest.isEmpty

/-- The point after the next character. -/
def behind : Reader Point := do
  let cursor ← get
  return (cursor.rest.head?.map cursor.point.after).getD cursor.point

/-- Takes the next character. -/
def bump : Reader Unit := modify fun cursor =>
  match cursor.rest with
  | [] => cursor
  | c :: rest => { cursor with rest, point := cursor.point.after c }

/-- Takes a text if it comes next. -/
def bumpIf (text : String) : Reader Bool := do
  if text.toList.isPrefixOf (← get).rest then
    text.toList.forM fun _ => bump
    return true
  return false

/-- Passes white space, and comments up to the ends of their lines. -/
def passSpace (inComment : Bool) (p : Point) : List Char → Point × List Char
  | [] => (p, [])
  | c :: rest =>
    if inComment then passSpace (c ≠ '\n') (p.after c) rest
    else if isWhiteSpace c then passSpace false (p.after c) rest
    else if c = '#' then passSpace true (p.after c) rest
    else (p, c :: rest)

/-- Skips white space and comments where that is asked for. -/
def skip : Reader Unit := modify fun cursor =>
  if cursor.skipsSpace then
    let (point, rest) := passSpace false cursor.point cursor.rest
    { cursor with rest, point }
  else cursor

/-- Takes the next character and skips what follows; fails at the end of the expression. -/
def bumpOrFail (kind : MistakeKind) (first : Point) : Reader Unit := do
  bump
  skip
  if ← atEnd then fail kind first (← here)

/-- The first character that is neither white space nor the beginning of a comment. The text of the
comment is not passed by. -/
def pastSpace? (inComment : Bool) : List Char → Option Char
  | [] => none
  | c :: rest =>
    if isWhiteSpace c then pastSpace? inComment rest
    else if c = '#' ∧ !inComment then pastSpace? true rest
    else some c

/-- What comes after the next character, and after white space if that is skipped. -/
def secondNext? : Reader (Option Char) := do
  let cursor ← get
  let rest := cursor.rest.tail
  return if cursor.skipsSpace then (pastSpace? false rest).or rest.head? else rest.head?

/-- Takes characters of a sort, skipping as it goes. -/
def collect (wanted : Char → Bool) (skips : Bool) : Nat → List Char → Reader (List Char)
  | 0, taken => return taken.reverse
  | fuel + 1, taken => do
    match ← next? with
    | some c =>
      if wanted c then
        bump
        if skips then skip
        collect wanted skips fuel (c :: taken)
      else return taken.reverse
    | none => return taken.reverse

/-- Takes all characters of a sort. -/
def collectAll (wanted : Char → Bool) (skips : Bool := true) : Reader String := do
  return String.ofList (← collect wanted skips (← get).rest.length [])

/-! ## Numbers -/

/-- The value of a digit. -/
def digitValue (c : Char) : Nat :=
  if c.isDigit then c.toNat - 48 else if c.isLower then c.toNat - 87 else c.toNat - 55

/-- Whether a character is a hexadecimal digit. -/
def isHex (c : Char) : Bool :=
  c.isDigit || ('a' ≤ c && c ≤ 'f') || ('A' ≤ c && c ≤ 'F')

/-- The value of digits. -/
def valueOf (base : Nat) (digits : String) : Nat :=
  digits.toList.foldl (fun n c => base * n + digitValue c) 0

/-- Reads a decimal number, or says what is wrong with it. -/
def decimal : Reader (Except Mistake Nat) := do
  let _ ← collectAll isWhiteSpace false
  let first ← here
  let digits ← collectAll Char.isDigit
  let span : Span := ⟨first, ← here⟩
  let _ ← collectAll isWhiteSpace
  if digits = "" then return .error { kind := .countEmpty, span }
  let value := valueOf 10 digits
  if value < UInt32.size then return .ok value
  return .error { kind := .decimalInvalid, span }

/-- The character with a number that is written between two points. -/
def charOf (digits : String) (first last : Point) : Reader Char := do
  let value := valueOf 16 digits
  if h : value.isValidChar then return Char.ofNatAux value h
  fail .hexInvalid first last

/-- Reads so many hexadecimal digits. -/
def hexDigits : Nat → List Char → Reader (List Char)
  | 0, taken => return taken.reverse
  | count + 1, taken => do
    match ← next? with
    | none => fail .escapeUnfinished (← here) (← here)
    | some c =>
      unless isHex c do fail .hexDigit (← here) (← behind)
      bump
      skip
      hexDigits count (c :: taken)

/-- Reads the number of a character, of which the letter before has been read: in braces, or in as
many digits as the letter asks for. `start` is where the escape begins. -/
def hexLiteral (start : Point) (count : Nat) : Reader Literal := do
  if ← atEnd then fail .escapeUnfinished (← here) (← here)
  let opening ← here
  if (← next?) = some '{' then
    bump
    let first ← here
    skip
    let digits ← collectAll isHex
    match ← next? with
    | none => fail .escapeUnfinished opening (← here)
    | some '}' =>
      let last ← here
      bump
      skip
      if digits = "" then fail .hexEmpty opening (← here)
      let char ← charOf digits first last
      return { char, span := ⟨start, ← here⟩ }
    | some _ => fail .hexDigit (← here) (← behind)
  else
    let digits ← hexDigits count []
    let char ← charOf (String.ofList digits) opening (← here)
    return { char, isByte := count = 2, span := ⟨start, ← here⟩ }

/-! ## Escapes -/

/-- The characters that have a meaning of their own. -/
def isMeta (c : Char) : Bool := c ∈ "\\.+*?()|[]\x7b\x7d^$#&-~".toList

/-- Splits a text at the first occurrence of a separator. -/
def splitFirst (separator text : String) : Option (String × String) :=
  match text.splitOn separator with
  | first :: second :: more => some (first, separator.intercalate (second :: more))
  | _ => none

/-- Reads the name of a property, of which the letter before has been read. -/
def propertyClass (start : Point) (negated : Bool) : Reader PropertyClass := do
  if ← atEnd then fail .escapeUnfinished (← here) (← here)
  match ← next? with
  | some '{' =>
    bump
    skip
    let text ← collectAll (· ≠ '}')
    if ← atEnd then fail .escapeUnfinished (← here) (← here)
    bump
    let span : Span := ⟨start, ← here⟩
    return match splitFirst "!=" text, splitFirst ":" text, splitFirst "=" text with
      | some (name, value), _, _ => { negated := !negated, name, value := some value, span }
      | none, some (name, value), _ => { negated, name, value := some value, span }
      | none, none, some (name, value) => { negated, name, value := some value, span }
      | none, none, none => { negated, name := text, value := none, span }
  | some '\\' => fail .propertyInvalid (← here) (← behind)
  | c =>
    bump
    skip
    return { negated, name := String.ofList c.toList, value := none, span := ⟨start, ← here⟩ }

/-- Reads which edge of a word is meant, if braces follow that say so. `start` is where the escape
begins. -/
def wordPlace (start : Point) : Reader PlaceKind := do
  unless (← next?) = some '{' do return .words .edge
  let before ← get
  let isLetter (c : Char) : Bool := c.isAlpha || c = '-'
  let opening ← here
  bumpOrFail .edgeUnfinished start
  let first ← here
  unless (← next?).any isLetter do
    set before
    return .words .edge
  let name ← collectAll isLetter
  unless (← next?) = some '}' do fail .edgeUnclosed opening (← here)
  let last ← here
  bump
  match name with
  | "start" => return .words .start
  | "end" => return .words .stop
  | "start-half" => return .words .startHalf
  | "end-half" => return .words .stopHalf
  | _ => fail .edgeUnknown first last

/-- The character that a letter after a backslash stands for. -/
def controlOf? (c : Char) : Option Char :=
  match c with
  | 'a' => some '\x07'
  | 'f' => some '\x0c'
  | 't' => some '\t'
  | 'n' => some '\n'
  | 'r' => some '\r'
  | 'v' => some '\x0b'
  | _ => none

/-- Reads an escape sequence. -/
def escape : Reader Node := do
  let start ← here
  bump
  match ← next? with
  | none => fail .escapeUnfinished start (← here)
  | some c =>
    if c.isDigit then fail .backreference start (← behind)
    bump
    match c with
    | 'x' => skip; return .literal (← hexLiteral start 2)
    | 'u' => skip; return .literal (← hexLiteral start 4)
    | 'U' => skip; return .literal (← hexLiteral start 8)
    | 'p' => skip; return .property (← propertyClass start false)
    | 'P' => skip; return .property (← propertyClass start true)
    | 'd' => return .short .digit false ⟨start, ← here⟩
    | 'D' => return .short .digit true ⟨start, ← here⟩
    | 's' => return .short .space false ⟨start, ← here⟩
    | 'S' => return .short .space true ⟨start, ← here⟩
    | 'w' => return .short .word false ⟨start, ← here⟩
    | 'W' => return .short .word true ⟨start, ← here⟩
    | 'A' => return .place .textStart
    | 'z' => return .place .textEnd
    | 'b' => return .place (← wordPlace start)
    | 'B' => return .place (.words .noEdge)
    | '<' => return .place (.words .start)
    | '>' => return .place (.words .stop)
    | c =>
      let span : Span := ⟨start, ← here⟩
      if isMeta c ∨ c.toNat < 128 ∧ ¬c.isAlphanum then return .literal { char := c, span }
      match controlOf? c with
      | some char => return .literal { char, span }
      | none => throw { kind := .escapeUnknown, span }

/-! ## Classes -/

/-- The names of the classes that are written as in `[:alpha:]`. -/
def classNames : List String :=
  ["alnum", "alpha", "ascii", "blank", "cntrl", "digit", "graph", "lower", "print", "punct",
    "space", "upper", "word", "xdigit"]

/-- Reads a class such as `[:alpha:]` if one comes next. -/
def namedClass? : Reader (Option ClassSet) := do
  let before ← get
  let first ← here
  unless ← bumpIf "[:" do return none
  let negated ← bumpIf "^"
  let name ← collectAll (· ≠ ':') false
  if name ∈ classNames then
    if ← bumpIf ":]" then return some (.named name negated ⟨first, ← here⟩)
  set before
  return none

/-- A member of a class: a character or an escape sequence, and where it stands. -/
def classItem : Reader (Node × Span) := do
  let first ← here
  match ← next? with
  | some '\\' =>
    let node ← escape
    return (node, ⟨first, ← here⟩)
  | c =>
    let span : Span := ⟨first, ← behind⟩
    bump
    return (.literal { char := c.getD ' ', span }, span)

/-- What a member of a class contributes to it. -/
def memberOf (item : Node × Span) : Reader ClassSet :=
  match item.1 with
  | .literal l => return .literal l
  | .short kind negated span => return .short kind negated span
  | .property p => return .property p
  | _ => fail .classEscape item.2.first item.2.last

/-- The character at an end of a range. -/
def boundOf (item : Node × Span) : Reader Literal :=
  match item.1 with
  | .literal l => return l
  | _ => fail .classRangeLiteral item.2.first item.2.last

/-- Reads a member of a class or a range. `opening` is where the class begins. -/
def classRange (opening : Span) : Reader ClassSet := do
  let item ← classItem
  skip
  if ← atEnd then fail .classUnclosed opening.first opening.last
  let second ← secondNext?
  if (← next?) ≠ some '-' ∨ second = some ']' ∨ second = some '-' then memberOf item
  else
    bump
    skip
    if ← atEnd then fail .classUnclosed opening.first opening.last
    let other ← classItem
    let first ← boundOf item
    let last ← boundOf other
    if first.char ≤ last.char then return .range first last ⟨item.2.first, other.2.last⟩
    fail .classRangeInvalid item.2.first other.2.last

/-- The members of a class that stand side by side, last first, and where they stand. -/
structure Members where
  span : Span
  sets : List ClassSet := []

namespace Members

/-- Puts one more member behind the others. -/
def push (m : Members) (set : ClassSet) : Members :=
  { span := ⟨if m.sets.isEmpty then set.span.first else m.span.first, set.span.last⟩
    sets := set :: m.sets }

/-- The set of all the members. -/
def toSet (m : Members) : ClassSet :=
  match m.sets with
  | [] => .empty m.span
  | [set] => set
  | sets => .union sets.reverse m.span

end Members

/-- A set that is combined with what stands before an operator, or stands alone. -/
def combine (pending : Option (SetOperator × ClassSet)) (set : ClassSet) : ClassSet :=
  match pending with
  | some (op, first) => .operation op first set ⟨first.span.first, set.span.last⟩
  | none => set

/-- No members yet. -/
def noMembers : Reader Members := return { span := ⟨← here, ← here⟩ }

/-- Takes the dashes at the beginning of a class, which stand for themselves. -/
def leadingDashes (start : Point) : Nat → Members → Reader Members
  | 0, found => return found
  | fuel + 1, found => do
    if (← next?) = some '-' then
      let span : Span := ⟨← here, ← behind⟩
      bump
      skip
      if ← atEnd then fail .classUnclosed start start
      leadingDashes start fuel (found.push (.literal { char := '-', span }))
    else return found

/-- Reads the beginning of a class: whether it is negated, and the characters that stand for
themselves there. -/
def classOpening : Reader (Bool × Members × Span) := do
  let start ← here
  bumpOrFail .classUnclosed start
  let negated := (← next?) = some '^'
  if negated then bumpOrFail .classUnclosed start
  let found ← leadingDashes start (← get).rest.length (← noMembers)
  if found.sets.isEmpty ∧ (← next?) = some ']' then
    let span : Span := ⟨← here, ← behind⟩
    bumpOrFail .classUnclosed start
    return (negated, found.push (.literal { char := ']', span }), ⟨start, ← here⟩)
  return (negated, found, ⟨start, ← here⟩)

mutual

/-- Reads a class in brackets. -/
def bracketed : Nat → Reader (Bool × ClassSet × Span)
  | 0 => return (false, .empty default, default)
  | fuel + 1 => do
    let (negated, found, opening) ← classOpening
    let set ← members fuel opening none found
    return (negated, set, ⟨opening.first, ← here⟩)

/-- Reads the members of a class up to its closing bracket. `pending` is an operator with what
stands before it. -/
def members (fuel : Nat) (opening : Span) (pending : Option (SetOperator × ClassSet))
    (found : Members) : Reader ClassSet :=
  match fuel with
  | 0 => return found.toSet
  | fuel + 1 => do
    skip
    match ← next? with
    | none => fail .classUnclosed opening.first opening.last
    | some '[' =>
      match ← namedClass? with
      | some named => members fuel opening pending (found.push named)
      | none =>
        let (negated, inner, span) ← bracketed fuel
        members fuel opening pending (found.push (.bracketed negated inner span))
    | some ']' =>
      bump
      return combine pending found.toSet
    | some _ =>
      let set := combine pending found.toSet
      if ← bumpIf "&&" then
        members fuel opening (some (.intersection, set)) (← noMembers)
      else if ← bumpIf "--" then
        members fuel opening (some (.difference, set)) (← noMembers)
      else if ← bumpIf "~~" then
        members fuel opening (some (.symmetricDifference, set)) (← noMembers)
      else members fuel opening pending (found.push (← classRange opening))

end

/-! ## Groups and repetitions -/

/-- The switch of a letter. -/
def flagOf? (c : Char) : Option Flag :=
  match c with
  | 'i' => some .ignoreCase
  | 'm' => some .multiLine
  | 's' => some .dotMatchesLineEnd
  | 'U' => some .swapGreed
  | 'u' => some .unicode
  | 'R' => some .carriageReturn
  | 'x' => some .ignoreSpace
  | _ => none

/-- Reads letters of switches up to a colon or a parenthesis. `minus` is where they began to be
turned off, and `dangling` whether none has been named since. The switches that were read are given
last first, with their places. -/
def flags : Nat → Option Span → Bool → List (Flag × Bool × Span) → Reader FlagChange
  | 0, _, _, _ => return []
  | fuel + 1, minus, dangling, read => do
    let span : Span := ⟨← here, ← behind⟩
    let mistake (kind : MistakeKind) (related : Option Span) : Mistake := { kind, span, related }
    match ← next? with
    | none => fail .flagUnfinished (← here) (← here)
    | some c =>
      if c = ':' ∨ c = ')' then
        match minus with
        | some minus => if dangling then fail .flagNegationDangling minus.first minus.last
        | none => pure ()
        return read.reverse.map fun (flag, on, _) => (flag, on)
      else if c = '-' then
        if minus.isSome then throw (mistake .flagNegationRepeated minus)
        bump
        flags fuel (some span) true read
      else match flagOf? c with
        | none => throw (mistake .flagUnknown none)
        | some flag =>
          match read.lookup flag with
          | some (_, earlier) => throw (mistake .flagDuplicate (some earlier))
          | none =>
            bump
            flags fuel minus false ((flag, minus.isNone, span) :: read)

/-- Whether a character may stand in the name of a group. -/
def isNameChar (isFirst : Bool) (c : Char) : Bool :=
  if isFirst then c = '_' || isAlphabetic c
  else c ∈ "_.[]".toList || isAlphabetic c || (Category.of c).group == 'N'

/-- Reads the name of a group, and the bracket after it. -/
def groupName : Reader Unit := do
  let first ← here
  if ← atEnd then fail .groupNameUnclosed first first
  let start ← collectAll (isNameChar true) false
  let more ← if start = "" then pure "" else collectAll (isNameChar false) false
  let last ← here
  match ← next? with
  | none => fail .groupNameUnclosed last last
  | some '>' =>
    bump
    if start = "" then fail .groupNameEmpty first first
    let name := start ++ more
    match (← get).names.lookup name with
    | some related =>
      throw { kind := .groupNameDuplicate, span := ⟨first, last⟩, related := some related }
    | none => modify fun cursor => { cursor with names := (name, ⟨first, last⟩) :: cursor.names }
  | some _ => fail .groupNameInvalid last (← behind)

/-- Whether white space is skipped after a change of switches. -/
def skipsAfter (change : FlagChange) (before : Bool) : Bool :=
  (change.lookup .ignoreSpace).getD before

/-- A sequence of parts, which are given last first. -/
def concatOf (parts : List (Point × Node)) (first last : Point) : Node :=
  match parts with
  | [] => .empty
  | [(_, node)] => node
  | parts => .concat (parts.reverse.map (·.2)) ⟨first, last⟩

/-- A part repeated; fails if there is none that could be. -/
def repeated (parts : List (Point × Node)) (least : Nat) (most : Option Nat) :
    Reader (List (Point × Node)) := do
  match parts with
  | [] | (_, .flags _) :: _ => fail .repetitionMissing (← here) (← here)
  | (start, node) :: rest =>
    bump
    let isLazy ← bumpIf "?"
    return (start, .again node least most isLazy ⟨start, ← here⟩) :: rest

/-- Reads a count in braces and repeats the last part so often. -/
def counted (parts : List (Point × Node)) : Reader (List (Point × Node)) := do
  match parts with
  | [] | (_, .flags _) :: _ => fail .repetitionMissing (← here) (← here)
  | (start, node) :: rest =>
    let first ← here
    bumpOrFail .countUnclosed first
    let lower ← decimal
    if ← atEnd then fail .countUnclosed first (← here)
    let (least, most) ← do
      if (← next?) = some ',' then
        bumpOrFail .countUnclosed first
        if (← next?) = some '}' then pure (← orThrow lower, none)
        else pure (← orThrow lower, some (← orThrow (← decimal)))
      else
        let count ← orThrow lower
        pure (count, some count)
    unless (← next?) = some '}' do fail .countUnclosed first (← here)
    bump
    skip
    let isLazy ← bumpIf "?"
    if most.any (· < least) then fail .countInvalid first (← here)
    return (start, .again node least most isLazy ⟨start, ← here⟩) :: rest
where
  /-- The value of a number, or its mistake. -/
  orThrow (result : Except Mistake Nat) : Reader Nat :=
    match result with
    | .ok value => return value
    | .error mistake => throw mistake

mutual

/-- Reads alternatives, up to a closing parenthesis or the end. The ones that were read are given
last first. -/
def alternatives (fuel : Nat) (first : Point) (branches : List Node) : Reader Node :=
  match fuel with
  | 0 => return .empty
  | fuel + 1 => do
    let branch ← sequence fuel (← here) []
    match ← next? with
    | some '|' =>
      bump
      alternatives fuel first (branch :: branches)
    | _ =>
      if branches = [] then return branch
      return .alternation (branch :: branches).reverse ⟨first, ← here⟩

/-- Reads parts that follow each other. The ones that were read are given last first. -/
def sequence (fuel : Nat) (first : Point) (parts : List (Point × Node)) : Reader Node :=
  match fuel with
  | 0 => return .empty
  | fuel + 1 => do
    skip
    let point ← here
    match ← next? with
    | none | some '|' | some ')' => return concatOf parts first point
    | some '(' => sequence fuel first ((point, ← group fuel) :: parts)
    | some '[' =>
      let (negated, set, span) ← bracketed fuel
      sequence fuel first ((point, .bracketed negated set span) :: parts)
    | some '?' => sequence fuel first (← repeated parts 0 (some 1))
    | some '*' => sequence fuel first (← repeated parts 0 none)
    | some '+' => sequence fuel first (← repeated parts 1 none)
    | some '{' => sequence fuel first (← counted parts)
    | some '\\' => sequence fuel first ((point, ← escape) :: parts)
    | some c =>
      let span : Span := ⟨point, ← behind⟩
      bump
      let node : Node := match c with
        | '.' => .dot span
        | '^' => .place .lineStart
        | '$' => .place .lineEnd
        | c => .literal { char := c, span }
      sequence fuel first ((point, node) :: parts)

/-- Reads a group, or a change of switches in parentheses. -/
def group : Nat → Reader Node
  | 0 => return .empty
  | fuel + 1 => do
    let opening : Span := ⟨← here, ← behind⟩
    bump
    skip
    for text in ["?=", "?!", "?<=", "?<!"] do
      if ← bumpIf text then fail .lookAround opening.first (← here)
    let inner ← here
    if ← bumpIf "?P<" then
      groupName
      groupBody fuel opening true []
    else if ← bumpIf "?<" then
      groupName
      groupBody fuel opening true []
    else if ← bumpIf "?" then
      if ← atEnd then fail .groupUnclosed opening.first opening.last
      let change ← flags fuel none false []
      let isClosed := (← next?) = some ')'
      bump
      if isClosed then
        if change = [] then fail .repetitionMissing inner inner
        modify fun cursor =>
          { cursor with skipsSpace := skipsAfter change cursor.skipsSpace }
        return .flags change
      else groupBody fuel opening false change
    else groupBody fuel opening true []

/-- Reads what a group holds, and its closing parenthesis. -/
def groupBody (fuel : Nat) (opening : Span) (remembers : Bool) (change : FlagChange) :
    Reader Node :=
  match fuel with
  | 0 => return .empty
  | fuel + 1 => do
    let outside := (← get).skipsSpace
    modify fun cursor => { cursor with skipsSpace := skipsAfter change outside }
    let body ← alternatives fuel (← here) []
    match ← next? with
    | some ')' =>
      modify fun cursor => { cursor with skipsSpace := outside }
      bump
      return .group remembers change body ⟨opening.first, ← here⟩
    | _ => fail .groupUnclosed opening.first opening.last

end

/-- Reads a whole expression. -/
def whole (fuel : Nat) : Reader Node := do
  let node ← alternatives fuel {} []
  unless ← atEnd do fail .groupUnopened (← here) (← behind)
  match node.tooDeep nestLimit with
  | some span => throw { kind := .nestedTooDeep, span }
  | none => return node

end Reader

/-- The parts of an expression, or the first mistake in it. -/
def Node.read (expression : String) : Except Mistake Node :=
  let chars := expression.toList
  (·.1) <$> Reader.whole (4 * chars.length + 8) { rest := chars }

end FileScript.Regex
