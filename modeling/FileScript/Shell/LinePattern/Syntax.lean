import FileScript.Shell.Octets
import FileScript.Unicode.Alphabetic

/-!
# Patterns for lines

The expressions by which programs look for something in a line or in another text. They match
characters, and bytes that belong to none.
-/

namespace FileScript.Shell

namespace LinePattern

open Octets (Piece)

/-- The text of some characters. -/
def textOf (pieces : List Piece) : String := String.join (pieces.map Piece.text)

/-- A class of characters. -/
inductive Kind where
  | alpha
  | digit
  | alnum
  | upper
  | lower
  | space
  | blank
  | punct
  | print
  | graph
  | cntrl
  | xdigit
  deriving DecidableEq, Repr, Inhabited

namespace Kind

/-- The class with a name. -/
def ofName? : String → Option Kind
  | "alpha" => some alpha
  | "digit" => some digit
  | "alnum" => some alnum
  | "upper" => some upper
  | "lower" => some lower
  | "space" => some space
  | "blank" => some blank
  | "punct" => some punct
  | "print" => some print
  | "graph" => some graph
  | "cntrl" => some cntrl
  | "xdigit" => some xdigit
  | _ => none

/-- Whether a character is white space. A space that keeps its neighbours together is none. -/
def isSpace (c : Char) : Bool :=
  Unicode.isWhiteSpace c && c ∉ ['\u0085', '\u00a0', '\u2007', '\u202f']

/-- Whether a character is in a class. -/
def covers (kind : Kind) (c : Char) : Bool :=
  let letterOrDigit := c.isAlphanum || (127 < c.toNat && Unicode.isAlphabetic c)
  let isShown := Unicode.isPrintable c
  match kind with
  | alpha => letterOrDigit && !c.isDigit
  | digit => c.isDigit
  | alnum => letterOrDigit
  | upper => Unicode.Category.of c == .upper
  | lower => Unicode.Category.of c == .lower
  | space => isSpace c
  | blank => c = '\t' || (isSpace c && (Unicode.Category.of c).group == 'Z')
  | punct => isShown && !letterOrDigit && !isSpace c
  | print => isShown
  | graph => isShown && !isSpace c
  | cntrl => Unicode.Category.of c == ⟨'C', 'c'⟩
  | xdigit => c.isDigit || ('a' ≤ c.toLower && c.toLower ≤ 'f')

end Kind

/-- What a list in brackets can hold. -/
inductive Member where
  | piece (p : Piece)
  | range (low high : Char)
  | kind (k : Kind)
  deriving DecidableEq, Repr, Inhabited

/-- A condition on the place in a text, which takes nothing of it. -/
inductive Anchor where
  | textStart
  | textEnd
  | lineStart
  | lineEnd
  | wordStart
  | wordEnd
  | wordEdge
  | noWordEdge
  deriving DecidableEq, Repr, Inhabited

/-- A pattern. Groups are numbered from one on. -/
inductive Expression where
  | empty
  | piece (p : Piece)
  | any
  | list (negated : Bool) (members : List Member)
  | anchor (a : Anchor)
  | group (number : Nat) (inner : Expression)
  /-- The same text as a group has taken. -/
  | again (number : Nat)
  | both (first second : Expression)
  | either (first second : Expression)
  | times (inner : Expression) (least : Nat) (most : Option Nat)
  deriving Repr, Inhabited

namespace Expression

/-- The number of groups in a pattern. -/
def groupCount : Expression → Nat
  | group _ inner => inner.groupCount + 1
  | both a b | either a b => a.groupCount + b.groupCount
  | times inner _ _ => inner.groupCount
  | _ => 0

/-- Whether a pattern asks for the text of a group. -/
def looksBack : Expression → Bool
  | again _ => true
  | group _ inner | times inner _ _ => inner.looksBack
  | both a b | either a b => a.looksBack || b.looksBack
  | _ => false

/-- The pattern that takes some characters. -/
def ofPieces (pieces : List Piece) : Expression :=
  pieces.foldr (fun p e => both (piece p) e) empty

end Expression

end LinePattern

end FileScript.Shell
