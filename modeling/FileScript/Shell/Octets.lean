/-!
# Texts of bytes

The shell does not know characters of more than one byte: it counts, compares and prints bytes. Its
texts are strings in which every character stands for one byte.
-/

namespace FileScript.Shell.Octets

/-- The character that stands for a byte. -/
def ofByte (b : UInt8) : Char := Char.ofNat b.toNat

/-- The text that bytes make up. -/
def ofBytes (bytes : ByteArray) : String := String.ofList (bytes.toList.map ofByte)

/-- The bytes of a text. -/
def toBytes (text : String) : ByteArray :=
  text.foldl (fun bytes c => bytes.push (UInt8.ofNat c.toNat)) .empty

/-- The bytes of an ordinary string as a text. -/
def ofString (s : String) : String := ofBytes s.toUTF8

/-- The ordinary string whose bytes are those of a text; the text itself if there is none. -/
def toString (text : String) : String := (String.fromUTF8? (toBytes text)).getD text

/-- A part of a text: a character, or a byte that belongs to none. -/
inductive Piece where
  | char (c : Char)
  | byte (b : Char)
  deriving DecidableEq, Repr, Inhabited

namespace Piece

/-- The bytes of a part, as a text. -/
def text : Piece → String
  | char c => ofString c.toString
  | byte b => b.toString

end Piece

/-- How many bytes follow the first byte of a character, and the bits of it that count. -/
def lead? (b : Nat) : Option (Nat × Nat) :=
  if b < 0x80 then some (0, b)
  else if b < 0xc2 then none
  else if b < 0xe0 then some (1, b - 0xc0)
  else if b < 0xf0 then some (2, b - 0xe0)
  else if b < 0xf5 then some (3, b - 0xf0)
  else none

/-- The character at the beginning of a text, and how many bytes it has. -/
def firstChar? (text : List Char) : Option (Char × Nat) := do
  let first ← text.head?
  let (count, bits) ← lead? first.toNat
  let more := text.tail.take count
  if more.length < count ∨ more.any (fun b => b.toNat < 0x80 || 0xc0 ≤ b.toNat) then none
  else
    let code := more.foldl (fun n b => 64 * n + (b.toNat - 0x80)) bits
    let c := Char.ofNat code
    if c.toNat = code ∧ c.utf8Size = count + 1 then some (c, count + 1) else none

/-- The parts of a text. -/
def piecesWithin : Nat → List Char → List Piece
  | 0, _ | _, [] => []
  | fuel + 1, b :: rest =>
    match firstChar? (b :: rest) with
    | some (c, size) => .char c :: piecesWithin fuel (rest.drop (size - 1))
    | none => .byte b :: piecesWithin fuel rest

/-- The parts of a text. -/
def pieces (text : String) : List Piece := piecesWithin text.length text.toList

/-- Whether a character is a letter, an underscore or a digit. -/
def isNameChar (c : Char) : Bool := c.isAlphanum || c = '_'

/-- Whether a name can begin with a character. -/
def isNameStart (c : Char) : Bool := c.isAlpha || c = '_'

/-- Whether a text is the name of a variable. -/
def isName (text : String) : Bool :=
  match text.toList with
  | c :: rest => isNameStart c && rest.all isNameChar
  | [] => false

/-- The name that a text begins with, and what follows it. -/
def splitName (text : List Char) : List Char × List Char :=
  match text with
  | c :: rest => if isNameStart c then text.span isNameChar else ([], c :: rest)
  | [] => ([], [])

/-- A number with at least so many digits. -/
def padded (width n : Nat) (base : Nat := 10) : String :=
  let digits := String.ofList (Nat.toDigits base n)
  "".pushn '0' (width - digits.length) ++ digits

end FileScript.Shell.Octets
