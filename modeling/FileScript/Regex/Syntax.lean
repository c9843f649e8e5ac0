import FileScript.Regex.Mistake

/-!
# Regular expressions as they are written

The parts of a regular expression, with the places at which they stand as far as a mistake may have
to be pointed out there.
-/

namespace FileScript.Regex

/-- A switch that changes how an expression is read. -/
inductive Flag where
  | ignoreCase
  | multiLine
  | dotMatchesLineEnd
  | swapGreed
  | unicode
  | carriageReturn
  | ignoreSpace
  deriving DecidableEq, Repr, Inhabited

/-- Switches that are turned on or off. -/
abbrev FlagChange := List (Flag × Bool)

/-- What a place has to do with the words on its two sides. -/
inductive WordPlace where
  | edge
  | noEdge
  | start
  | stop
  | startHalf
  | stopHalf
  deriving DecidableEq, Repr, Inhabited

/-- A place between characters. -/
inductive PlaceKind where
  | lineStart
  | lineEnd
  | textStart
  | textEnd
  | words (place : WordPlace)
  deriving DecidableEq, Repr, Inhabited

/-- The classes that are written with one small letter; with a capital, they are negated. -/
inductive ShortClass where
  | digit
  | space
  | word
  deriving DecidableEq, Repr, Inhabited

/-- A literal character. -/
structure Literal where
  char : Char
  /-- Whether it is written with exactly two hexadecimal digits, which can mean a byte. -/
  isByte : Bool := false
  span : Span
  deriving DecidableEq, Repr, Inhabited

/-- A class that is given by a property of characters. -/
structure PropertyClass where
  negated : Bool
  name : String
  /-- The value that the property has to have, if one is given. -/
  value : Option String
  span : Span
  deriving DecidableEq, Repr, Inhabited

/-- How two sets of characters are combined. -/
inductive SetOperator where
  | intersection
  | difference
  | symmetricDifference
  deriving DecidableEq, Repr, Inhabited

/-- What stands between the brackets of a class. -/
inductive ClassSet where
  | empty (span : Span)
  | literal (l : Literal)
  | range (first last : Literal) (span : Span)
  /-- A class such as `[:alpha:]`. -/
  | named (name : String) (negated : Bool) (span : Span)
  | short (kind : ShortClass) (negated : Bool) (span : Span)
  | property (p : PropertyClass)
  | bracketed (negated : Bool) (set : ClassSet) (span : Span)
  /-- Two or more members side by side. -/
  | union (members : List ClassSet) (span : Span)
  | operation (op : SetOperator) (first second : ClassSet) (span : Span)
  deriving Inhabited

/-- A part of an expression. -/
inductive Node where
  | empty
  /-- Switches that are changed from here on. -/
  | flags (change : FlagChange)
  | literal (l : Literal)
  | dot (span : Span)
  | place (kind : PlaceKind)
  | short (kind : ShortClass) (negated : Bool) (span : Span)
  | property (p : PropertyClass)
  | bracketed (negated : Bool) (set : ClassSet) (span : Span)
  /-- A group, inside which switches are changed. Some groups remember what they match. -/
  | group (remembers : Bool) (change : FlagChange) (body : Node) (span : Span)
  | concat (parts : List Node) (span : Span)
  | alternation (branches : List Node) (span : Span)
  /-- A part repeated. A lazy repetition prefers to end early. -/
  | again (body : Node) (least : Nat) (most : Option Nat) (isLazy : Bool) (span : Span)

namespace ClassSet

/-- Where a set is written. -/
def span : ClassSet → Span
  | literal l => l.span
  | property p => p.span
  | empty span | range _ _ span | named _ _ span | short _ _ span | bracketed _ _ span
  | union _ span | operation _ _ _ span => span

mutual

/-- The first set that is nested too deep, when so many more levels are allowed. -/
def tooDeep (room : Nat) : ClassSet → Option Span
  | bracketed _ set span =>
    match room with
    | 0 => some span
    | room + 1 => set.tooDeep room
  | union members span =>
    match room with
    | 0 => some span
    | room + 1 => anyTooDeep room members
  | operation _ first second span =>
    match room with
    | 0 => some span
    | room + 1 => first.tooDeep room <|> second.tooDeep room
  | _ => none

/-- The first of several sets that is nested too deep. -/
def anyTooDeep (room : Nat) : List ClassSet → Option Span
  | [] => none
  | set :: sets => set.tooDeep room <|> anyTooDeep room sets

end

end ClassSet

namespace Node

mutual

/-- The first part that is nested too deep, when so many more levels are allowed. -/
def tooDeep (room : Nat) : Node → Option Span
  | bracketed _ set span =>
    match room with
    | 0 => some span
    | room + 1 => set.tooDeep room
  | group _ _ body span | again body _ _ _ span =>
    match room with
    | 0 => some span
    | room + 1 => body.tooDeep room
  | concat parts span | alternation parts span =>
    match room with
    | 0 => some span
    | room + 1 => anyTooDeep room parts
  | _ => none

/-- The first of several parts that is nested too deep. -/
def anyTooDeep (room : Nat) : List Node → Option Span
  | [] => none
  | node :: nodes => node.tooDeep room <|> anyTooDeep room nodes

end

end Node

end FileScript.Regex
