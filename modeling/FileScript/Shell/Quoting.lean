import FileScript.Shell.Octets
import FileScript.Unicode.Category

/-!
# Names in messages

How programs show a name in a message. A name is put in single quotes, so that a shell would read it
back as one word; what cannot be printed is shown by escape sequences. Some messages put a name in
quotes only if it needs them, and values stand between quotation marks of their own.
-/

namespace FileScript.Shell

namespace Quoting

open Octets (Piece)

/-- Whether a part of a name is shown by escape sequences. -/
def isHidden : Piece → Bool
  | .char c => !Unicode.isPrintable c
  | .byte _ => true

/-- The escape sequence of a byte. -/
def escape (b : Char) : String :=
  match b with
  | '\x07' => "\\a"
  | '\x08' => "\\b"
  | '\t' => "\\t"
  | '\n' => "\\n"
  | '\x0b' => "\\v"
  | '\x0c' => "\\f"
  | '\r' => "\\r"
  | _ => "\\" ++ Octets.padded 3 b.toNat 8

/-- The escape sequences of a part. -/
def escaped (piece : Piece) : String := String.join (piece.text.toList.map escape)

/-- Whether a character means the same in double quotes. -/
def isPlain : Piece → Bool
  | .char c => c.isAlphanum || c ∈ " '%+,-./:]_".toList || (127 < c.toNat && Unicode.isPrintable c)
  | .byte _ => false

/-- A text in single quotes. `hidden` says whether an escape sequence has just been written, for
which the quotes are interrupted. -/
def singleQuoted (hidden : Bool) : List Piece → String
  | [] => "'"
  | p :: rest =>
    if p = .char '\'' then "'\\''" ++ singleQuoted false rest
    else if isHidden p then (if hidden then "" else "'$'") ++ escaped p ++ singleQuoted true rest
    else (if hidden then "''" else "") ++ p.text ++ singleQuoted false rest

/-- A name in quotes. -/
def always (name : String) : String :=
  let pieces := Octets.pieces name
  if .char '\'' ∈ pieces ∧ pieces.all isPlain then "\"" ++ name ++ "\""
  else "'" ++ singleQuoted false pieces

/-- The characters that a shell does not take as they stand. -/
def special : List Char := " !\"$&()*;<=>[^\x60|?\\'".toList

/-- Whether a name has to be put in quotes. A colon is put in quotes if messages ask for it. -/
def isNeeded (name : String) (colon : Bool := true) : Bool :=
  name ∈ ["", "\x7b", "\x7d"] || name.startsWith "#" || name.startsWith "~" ||
    (Octets.pieces name).any fun p =>
      isHidden p || match p with
        | .char c => c ∈ special || (colon && c = ':')
        | .byte _ => true

/-- A name, in quotes if it needs them. -/
def ifNeeded (name : String) : String := if isNeeded name then always name else name

/-- A name as a list of names shows it, in quotes if it needs them. -/
def listed (name : String) : String := if isNeeded name false then always name else name

/-- The quotation marks around a value. -/
def marks : String × String := (Octets.ofString "‘", Octets.ofString "’")

/-- A value between quotation marks. Backslashes mark themselves and the mark at the end. -/
def value (text : String) : String :=
  let shown (p : Piece) : String :=
    if p = .char '\\' ∨ p = .char '’' then "\\" ++ p.text
    else if isHidden p then escaped p
    else p.text
  marks.1 ++ String.join ((Octets.pieces text).map shown) ++ marks.2

end Quoting

end FileScript.Shell
