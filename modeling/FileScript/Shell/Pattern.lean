/-!
# Patterns

Patterns for file names and for the choice of commands: an asterisk stands for any text, a question
mark for any character, and brackets for one of several characters. Quoted characters stand for
themselves.
-/

namespace FileScript.Shell

/-- A character of a word that has been expanded. -/
inductive Glyph where
  /-- A character. A literal one has no meaning in patterns. -/
  | char (c : Char) (isLiteral : Bool)
  /-- A quotation begins or ends, so the word is not nothing. -/
  | mark
  deriving DecidableEq, Repr, Inhabited

namespace Glyph

/-- The text that glyphs stand for. -/
def text (glyphs : List Glyph) : String :=
  String.ofList <| glyphs.filterMap fun
    | char c _ => some c
    | mark => none

/-- Glyphs without a meaning in patterns. -/
def literals (text : String) : List Glyph := text.toList.map (char · true)

end Glyph

namespace Pattern

/-- The classes of characters that have names. -/
def inClass (name : String) (c : Char) : Bool :=
  let control := c.toNat < 32 || c.toNat = 127
  let graphic := !control && c.toNat < 127 && c ≠ ' '
  match name with
  | "alnum" => c.isAlphanum
  | "alpha" => c.isAlpha
  | "blank" => c = ' ' || c = '\t'
  | "cntrl" => control
  | "digit" => c.isDigit
  | "graph" => graphic
  | "lower" => c.isLower
  | "print" => graphic || c = ' '
  | "punct" => graphic && !c.isAlphanum
  | "space" => c ∈ [' ', '\t', '\n', '\x0b', '\x0c', '\r']
  | "upper" => c.isUpper
  | "xdigit" => c.isDigit || c ∈ ['a', 'b', 'c', 'd', 'e', 'f', 'A', 'B', 'C', 'D', 'E', 'F']
  | _ => false

/-- The names of the classes. -/
def classNames : List String :=
  ["alnum", "alpha", "blank", "cntrl", "digit", "graph", "lower", "print", "punct", "space",
    "upper", "xdigit"]

/-- A part of a bracket. -/
inductive Member where
  | range (first last : Char)
  | named (name : String)
  deriving DecidableEq, Repr, Inhabited

/-- A part of a pattern. -/
inductive Item where
  | anything
  | anyChar
  | char (c : Char)
  | bracket (negated : Bool) (members : List Member)
  deriving DecidableEq, Repr, Inhabited

/-- A character of a pattern before it is understood, and whether it is literal. -/
abbrev Sign := Char × Bool

/-- The signs that glyphs are. A backslash makes the next sign literal. -/
def signs : List Glyph → List Sign
  | [] => []
  | .mark :: rest => signs rest
  | .char '\\' false :: .char c _ :: rest => (c, true) :: signs rest
  | .char c isLiteral :: rest => (c, isLiteral) :: signs rest

/-- The name of a class that stands at the beginning, and what follows it. -/
def className? (text : List Sign) : Option (String × List Sign) :=
  let letters := text.takeWhile fun (c, isLiteral) => c.isAlpha && !isLiteral
  let name := String.ofList (letters.map (·.1))
  match text.drop letters.length with
  | (':', false) :: (']', false) :: rest => if name ∈ classNames then some (name, rest) else none
  | _ => none

/-- The members of a bracket and what follows it. The first sign is a member, whatever it is. -/
def members : Nat → Bool → List Sign → Option (List Member × List Sign)
  | 0, _, _ | _, _, [] => none
  | fuel + 1, first, (c, isLiteral) :: rest =>
    if c = ']' ∧ ¬isLiteral ∧ ¬first then some ([], rest)
    else
      let class? := match c, isLiteral, rest with
        | '[', false, (':', false) :: text => className? text
        | _, _, _ => none
      match class?, rest with
      | some (name, rest), _ =>
        (members fuel false rest).map fun (more, rest) => (.named name :: more, rest)
      | none, ('-', false) :: (last, lastLiteral) :: rest =>
        if last = ']' ∧ ¬lastLiteral then
          (members fuel false (('-', false) :: (last, lastLiteral) :: rest)).map
            fun (more, rest) => (.range c c :: more, rest)
        else (members fuel false rest).map fun (more, rest) => (.range c last :: more, rest)
      | none, rest => (members fuel false rest).map fun (more, rest) => (.range c c :: more, rest)

/-- The items of a pattern. A bracket that is not closed stands for itself. -/
def items : Nat → List Sign → List Item
  | 0, _ | _, [] => []
  | fuel + 1, (c, isLiteral) :: rest =>
    if isLiteral then .char c :: items fuel rest
    else match c with
      | '*' => .anything :: items fuel rest
      | '?' => .anyChar :: items fuel rest
      | '[' =>
        let (negated, inner) := match rest with
          | ('!', false) :: inner => (true, inner)
          | _ => (false, rest)
        match members (rest.length + 1) true inner with
        | some (found, rest) => .bracket negated found :: items fuel rest
        | none => .char '[' :: items fuel rest
      | _ => .char c :: items fuel rest

/-- The pattern that signs make up. -/
def ofSigns (text : List Sign) : List Item := items (text.length + 1) text

/-- The pattern that glyphs make up. -/
def ofGlyphs (glyphs : List Glyph) : List Item := ofSigns (signs glyphs)

/-- Signs in which a caret negates a bracket as an exclamation mark does. -/
def withCarets : List Sign → List Sign
  | ('[', false) :: ('^', false) :: rest => ('[', false) :: ('!', false) :: withCarets rest
  | sign :: rest => sign :: withCarets rest
  | [] => []

/-- The pattern that a program reads in a text. -/
def ofText (text : String) : List Item :=
  ofSigns (withCarets (signs (text.toList.map (.char · false))))

/-- Whether a character is meant by a part of a bracket. -/
def Member.covers (c : Char) : Member → Bool
  | range first last => first ≤ c && c ≤ last
  | named name => inClass name c

/-- Whether a text or what is left of it after some characters passes a test. -/
def anySuffix (p : List Char → Bool) : List Char → Bool
  | [] => p []
  | c :: rest => p (c :: rest) || anySuffix p rest

/-- Whether a pattern fits a whole text. -/
def fits : List Item → List Char → Bool
  | [], text => text.isEmpty
  | .anything :: rest, text => anySuffix (fits rest) text
  | .anyChar :: rest, text =>
    match text with
    | _ :: text => fits rest text
    | [] => false
  | .char c :: rest, text =>
    match text with
    | d :: text => c = d && fits rest text
    | [] => false
  | .bracket negated members :: rest, text =>
    match text with
    | d :: text => members.any (·.covers d) != negated && fits rest text
    | [] => false

/-- A text without the shortest or the longest part at its beginning that a pattern fits. -/
def trimStart (pattern : List Item) (longest : Bool) (text : List Char) : List Char :=
  let sizes := List.range (text.length + 1)
  let sizes := if longest then sizes.reverse else sizes
  match sizes.find? fun n => fits pattern (text.take n) with
  | some n => text.drop n
  | none => text

/-- A text without the shortest or the longest part at its end that a pattern fits. -/
def trimEnd (pattern : List Item) (longest : Bool) (text : List Char) : List Char :=
  let sizes := List.range (text.length + 1)
  let sizes := if longest then sizes else sizes.reverse
  match sizes.find? fun n => fits pattern (text.drop n) with
  | some n => text.take n
  | none => text

end Pattern

end FileScript.Shell
