import FileScript.Shell.LinePattern.Syntax

/-!
# Reading patterns for lines

Patterns come in two forms. In the simple one, signs for groups, choices and counts are marked by a
backslash; in the extended one, they stand by themselves. Programs differ in what they make of signs
that stand where they have no meaning.
-/

namespace FileScript.Shell

namespace LinePattern

open Octets (Piece)

/-- How patterns are written. -/
structure Dialect where
  extended : Bool := false
  /-- Whether signs without a meaning stand for themselves. -/
  lenient : Bool := false
  /-- Whether a list that looks like the name of a class is taken for a mistake. -/
  checksClasses : Bool := true
  deriving DecidableEq, Repr, Inhabited

/-- What is wrong with a pattern. -/
inductive Mistake where
  | collation
  | kind
  | backslash
  | backReference
  | bracket
  | openBracket
  | group
  | groupEnd
  | brace
  | count
  | range
  | repetition
  | tooBig
  | confusing
  deriving DecidableEq, Repr, Inhabited

namespace Mistake

/-- What is said about a mistake. -/
def text : Mistake → String
  | collation => "Invalid collation character"
  | kind => "Invalid character class name"
  | backslash => "Trailing backslash"
  | backReference => "Invalid back reference"
  | bracket => "Unmatched [, [^, [:, [., or [="
  | openBracket => "Invalid regular expression"
  | group => "Unmatched ( or \\("
  | groupEnd => "Unmatched ) or \\)"
  | brace => "Unmatched \\\x7b"
  | count => "Invalid content of \\\x7b\\\x7d"
  | range => "Invalid range end"
  | repetition => "Invalid preceding regular expression"
  | tooBig => "Regular expression too big"
  | confusing => "character class syntax is [[:space:]], not [:space:]"

end Mistake

/-- The parts of a written pattern. -/
inductive Token where
  | piece (p : Piece)
  | any
  | list
  | groupStart
  | groupEnd
  | bar
  | star
  | plus
  | question
  | countStart
  | countEnd
  | anchor (a : Anchor)
  | again (number : Nat)
  | word (negated : Bool)
  | space (negated : Bool)
  | backslash
  | stop
  deriving DecidableEq, Repr, Inhabited

namespace Token

/-- The characters that a part stands for where it has no meaning. -/
def signs : List (Token × Char) :=
  [(star, '*'), (plus, '+'), (question, '?'), (countStart, '\x7b'), (countEnd, '\x7d'),
    (groupEnd, ')'), (bar, '|')]

/-- The parts behind a backslash. In the extended form, signs stand for themselves there. -/
def escaped (extended : Bool) (p : Piece) : Token :=
  let simple (t : Token) : Token := if extended then piece p else t
  match p with
  | .byte _ => piece p
  | .char c =>
    match c with
    | '|' => simple bar
    | '(' => simple groupStart
    | ')' => simple groupEnd
    | '\x7b' => simple countStart
    | '\x7d' => simple countEnd
    | '+' => simple plus
    | '?' => simple question
    | '<' => anchor .wordStart
    | '>' => anchor .wordEnd
    | 'b' => anchor .wordEdge
    | 'B' => anchor .noWordEdge
    | '\x60' => anchor .textStart
    | '\'' => anchor .textEnd
    | 'w' => word false
    | 'W' => word true
    | 's' => space false
    | 'S' => space true
    | _ =>
      if '1' ≤ c ∧ c ≤ '9' then again (c.toNat - '0'.toNat) else piece p

/-- The next part of a written pattern and what follows it. `opening` says whether the pattern, or a
group or choice in it, begins here. -/
def next (extended opening : Bool) (text : List Piece) : Token × List Piece :=
  match text with
  | [] => (stop, [])
  | [.char '\\'] => (backslash, [])
  | .char '\\' :: p :: rest => (escaped extended p, rest)
  | p :: rest =>
    let simple (t : Token) : Token × List Piece := (if extended then t else piece p, rest)
    let ends : Bool := match rest with
      | [] => true
      | .char '\\' :: .char c :: _ => !extended && (c = ')' || c = '|')
      | _ => false
    match p with
    | .byte _ => (piece p, rest)
    | .char c =>
      match c with
      | '.' => (any, rest)
      | '[' => (list, rest)
      | '*' => (star, rest)
      | '^' => (if extended || opening then anchor .lineStart else piece p, rest)
      | '$' => (if extended || ends then anchor .lineEnd else piece p, rest)
      | '|' => simple bar
      | '(' => simple groupStart
      | ')' => simple groupEnd
      | '\x7b' => simple countStart
      | '\x7d' => simple countEnd
      | '+' => simple plus
      | '?' => simple question
      | _ => (piece p, rest)

end Token

/-! ## Lists in brackets -/

/-- A name between marks in a list, which ends at the mark and a bracket. -/
def nameUntil (mark : Char) : List Piece → Option (List Piece × List Piece)
  | [] => none
  | p :: rest =>
    if p = .char mark ∧ rest.head? = some (.char ']') then some ([], rest.drop 1)
    else (nameUntil mark rest).map fun (name, after) => (p :: name, after)

/-- An element of a list: a character, or a class or another name between marks. -/
def element (text : List Piece) : Except Mistake (Member × List Piece) :=
  match text with
  | [] => .error .bracket
  | .char '[' :: .char mark :: rest =>
    if mark = ':' ∨ mark = '.' ∨ mark = '=' then
      match nameUntil mark rest with
      | none => .error .bracket
      | some (name, after) =>
        match mark, name with
        | ':', _ =>
          match Kind.ofName? (textOf name) with
          | some k => .ok (.kind k, after)
          | none => .error .kind
        | _, [p] => .ok (.piece p, after)
        | _, _ => .error .collation
    else .ok (.piece (.char '['), .char mark :: rest)
  | p :: rest => .ok (.piece p, rest)

/-- Whether a member is a class. -/
def Member.isKind : Member → Bool
  | kind _ => true
  | _ => false

/-- Whether a member is a single character. -/
def Member.isPiece : Member → Bool
  | piece _ => true
  | _ => false

/-- The range between two elements. -/
def rangeOf : Member → Member → Except Mistake Member
  | .piece (.char low), .piece (.char high) =>
    if low ≤ high then .ok (.range low high) else .error .range
  | .piece (.byte low), .piece (.byte high) =>
    if low = high then .ok (.piece (.byte low)) else .error .collation
  | .kind _, _ | _, .kind _ => .error .range
  | _, _ => .error .collation

/-- The members of a list, up to the bracket that ends it. -/
def members : Nat → (isFirst : Bool) → List Piece → Except Mistake (List Member × List Piece)
  | 0, _, _ | _, _, [] => .error .bracket
  | fuel + 1, isFirst, p :: rest => do
    if p = .char ']' ∧ !isFirst then return ([], rest)
    let strayDash := p = .char '-' ∧ !isFirst ∧ rest.head? ≠ some (.char ']')
    if strayDash then throw .range
    let (low, after) ← element (p :: rest)
    match after with
    | .char '-' :: more =>
      if low.isKind ∨ more.head? = some (.char ']') then
        let (others, after) ← members fuel false after
        return (low :: others, after)
      if more = [] then throw .bracket
      let (high, after) ← element more
      let member ← rangeOf low high
      let (others, after) ← members fuel false after
      return (member :: others, after)
    | _ =>
      let (others, after) ← members fuel false after
      return (low :: others, after)

/-- Whether the members of a list look like the name of a class that lacks its own brackets. -/
def isConfusing (members : List Member) : Bool :=
  let colon : Member := .piece (.char ':')
  members.head? = some colon && members.getLast? = some colon && members.any (· ≠ colon) &&
    members.all (·.isPiece)

/-- A list in brackets, and what follows it. -/
def bracketList (d : Dialect) (text : List Piece) :
    Except Mistake (Expression × List Piece) := do
  let negated := text.head? = some (.char '^')
  let inner := if negated then text.tail else text
  if inner = [] then throw .openBracket
  let (found, rest) ← members (text.length + 1) true inner
  if d.checksClasses && !negated && isConfusing found then throw .confusing
  return (.list negated found, rest)

/-! ## Counts -/

/-- The greatest count. -/
def countLimit : Nat := 32767

/-- A number in a count. -/
inductive CountPart where
  | absent
  | malformed
  | number (n : Nat)
  deriving DecidableEq, Repr, Inhabited

/-- How a number in a count ends. -/
inductive CountEnd where
  | comma
  | closed
  | missing
  deriving DecidableEq, Repr, Inhabited

/-- A number in a count, how it ends and what follows. -/
def countPart (extended : Bool) : List Piece → CountPart → CountPart × CountEnd × List Piece
  | [], _ => (.malformed, .missing, [])
  | p :: rest, found =>
    let closes : Option (List Piece) :=
      if extended then if p = .char '\x7d' then some rest else none
      else if p = .char '\\' ∧ rest.head? = some (.char '\x7d') then some (rest.drop 1) else none
    match closes, p with
    | some after, _ => (found, .closed, after)
    | none, .char ',' => (found, .comma, rest)
    | none, .char c =>
      let found := if !c.isDigit then .malformed else
        let digit := c.toNat - '0'.toNat
        match found with
        | .absent => .number digit
        | .number n => .number (min (countLimit + 1) (10 * n + digit))
        | .malformed => .malformed
      countPart extended rest found
    | none, .byte _ => countPart extended rest .malformed

/-- How often something is repeated, and what follows the count; or what is wrong with it. -/
def countOf (d : Dialect) (text : List Piece) :
    Except Mistake (Option ((Nat × Option Nat) × List Piece)) :=
  let (least, ending, rest) := countPart d.extended text .absent
  let (most, closing, rest) := match ending with
    | .comma => countPart d.extended rest .absent
    | _ => (least, ending, rest)
  let invalid : Except Mistake (Option ((Nat × Option Nat) × List Piece)) :=
    if d.lenient ∧ d.extended then .ok none
    else .error (if closing = .missing then .brace else .count)
  match least, most with
  | .absent, _ =>
    if ending = .comma then finish 0 most closing rest invalid
    else if d.lenient ∧ d.extended ∧ closing = .missing then .ok none
    else .error .count
  | .malformed, _ => invalid
  | .number n, _ => finish n most closing rest invalid
where
  /-- The count from a number up to another. -/
  finish (n : Nat) (most : CountPart) (closing : CountEnd) (rest : List Piece)
      (invalid : Except Mistake (Option ((Nat × Option Nat) × List Piece))) :
      Except Mistake (Option ((Nat × Option Nat) × List Piece)) :=
    match most with
    | .malformed => invalid
    | .absent =>
      if closing ≠ .closed then .error .count
      else if n > countLimit then .error .tooBig
      else .ok (some ((n, none), rest))
    | .number m =>
      if closing ≠ .closed ∨ m < n then .error .count
      else if m > countLimit then .error .tooBig
      else .ok (some ((n, some m), rest))

/-! ## Patterns -/

/-- A pattern that is being read: the next part, what follows it and the groups so far. -/
structure Reader where
  token : Token
  rest : List Piece
  groups : Nat := 0
  /-- The groups that have come to their end. -/
  closed : List Nat := []
  /-- The signs without a meaning at the beginnings of choices. -/
  idle : List String := []
  deriving Repr, Inhabited

namespace Reader

/-- Goes on to the next part. -/
def skip (d : Dialect) (r : Reader) (opening : Bool := false) : Reader :=
  let (token, rest) := Token.next d.extended opening r.rest
  { r with token, rest }

/-- What the signs for repetitions behind a pattern make of it. -/
def repeated (d : Dialect) : Nat → Expression → Reader → Except Mistake (Expression × Reader)
  | 0, e, r => .ok (e, r)
  | fuel + 1, e, r => do
    let strict := !d.lenient && !d.extended
    let more (least : Nat) (most : Option Nat) (r : Reader) :
        Except Mistake (Expression × Reader) := do
      let r := r.skip d
      if strict && (r.token = .star || r.token = .countStart) then throw .repetition
      repeated d fuel (.times e least most) r
    match r.token with
    | .star => more 0 none r
    | .plus => more 1 none r
    | .question => more 0 (some 1) r
    | .countStart =>
      match ← countOf d r.rest with
      | some ((least, most), rest) => more least most { r with rest }
      | none => return (e, { r with token := .piece (.char '\x7b') })
    | _ => return (e, r)

/-- The words by which a program names a sign without a meaning. -/
def idleName? : Token → Option String
  | .star => some "*"
  | .plus => some "+"
  | .question => some "?"
  | .countStart => some "\x7b...\x7d"
  | _ => none

mutual

/-- Reads choices, up to the end of the pattern or of a group. -/
def choices (d : Dialect) : Nat → (depth : Nat) → Reader → Except Mistake (Expression × Reader)
  | 0, _, _ => .error .tooBig
  | fuel + 1, depth, r => do
    let (first, r) ← sequence d fuel depth r
    if r.token = .bar then
      let (others, r) ← choices d fuel depth (r.skip d true)
      return (.either first others, r)
    else return (first, r)

/-- Reads patterns that follow one another. -/
def sequence (d : Dialect) : Nat → (depth : Nat) → Reader → Except Mistake (Expression × Reader)
  | 0, _, _ => .error .tooBig
  | fuel + 1, depth, r => do
    if r.token = .stop ∨ r.token = .bar ∨ (0 < depth ∧ r.token = .groupEnd) then
      return (.empty, r)
    let (first, r) ← single d fuel depth r
    let (others, r) ← sequence d fuel depth r
    return (.both first others, r)

/-- Reads a pattern with the signs for its repetition. -/
def single (d : Dialect) : Nat → (depth : Nat) → Reader → Except Mistake (Expression × Reader)
  | 0, _, _ => .error .tooBig
  | fuel + 1, depth, r => do
    let simple (e : Expression) : Except Mistake (Expression × Reader) :=
      repeated d r.rest.length.succ e (r.skip d)
    let signItself (t : Token) : Except Mistake (Expression × Reader) :=
      simple (.piece (.char ((Token.signs.lookup t).getD ' ')))
    let list (negated : Bool) (members : List Member) : Expression := .list negated members
    match r.token with
    | .piece p => simple (.piece p)
    | .any => simple .any
    | .word negated => simple (list negated [.kind .alnum, .piece (.char '_')])
    | .space negated => simple (list negated [.kind .space])
    | .anchor a => return (.anchor a, r.skip d true)
    | .list =>
      let (e, rest) ← bracketList d r.rest
      repeated d rest.length.succ e ({ r with rest }.skip d)
    | .groupStart =>
      let number := r.groups + 1
      let (inner, after) ← choices d fuel (depth + 1) ({ r with groups := number }.skip d true)
      if after.token ≠ .groupEnd then throw .group
      let after := { after with closed := number :: after.closed }.skip d
      repeated d after.rest.length.succ.succ (.group number inner) after
    | .again number =>
      if number ∉ r.closed then throw .backReference
      simple (.again number)
    | .backslash => throw .backslash
    | .groupEnd => if d.lenient && d.extended then signItself r.token else throw .groupEnd
    | .star | .plus | .question | .countStart =>
      if !d.extended then
        if r.token = .countStart && !d.lenient then throw .repetition else signItself r.token
      else if !d.lenient then throw .repetition
      else
        let idle := r.idle ++ (idleName? r.token).toList
        match r.token with
        | .countStart =>
          match ← countOf d r.rest with
          | some (_, rest) => sequence d fuel depth ({ r with rest, idle }.skip d)
          | none => signItself r.token
        | _ => sequence d fuel depth ({ r with idle }.skip d)
    | .countEnd | .bar => signItself r.token
    | .stop => return (.empty, r)

end

end Reader

/-- Reads a pattern. The names of signs without a meaning are told too. -/
def read (d : Dialect) (text : List Piece) : Except Mistake (Expression × List String) := do
  let (token, rest) := Token.next d.extended true text
  let (e, r) ← Reader.choices d (8 * text.length + 8) 0 { token, rest }
  return (e, r.idle)

end LinePattern

end FileScript.Shell
