import FileScript.Shell.Finding.Condition

/-!
# Formats for files

A format says what is printed of a file that was found. Percent signs begin directives, and
backslashes begin escape sequences.
-/

namespace FileScript.Shell.Finding

/-- The letters that stand for something known about a file. -/
def valueLetters : List Char := "abcdDfFgGhHiklmMnpPsStuUyYZ".toList

/-- The letters that stand for a time together with the next letter. -/
def timeLetters : List Char := "ABCT".toList

/-- The characters that stand behind backslashes, and what they denote. -/
def escapes : List (Char × Char) :=
  [('a', '\x07'), ('b', '\x08'), ('f', '\x0c'), ('n', '\n'), ('r', '\r'), ('t', '\t'),
    ('v', '\x0b'), ('\\', '\\')]

/-- A sign in the quotation marks of a message. -/
def marked (sign : String) : String := "\x60" ++ sign ++ "'"

/-- Puts a text before parts. -/
def withText (text : List Char) (parts : List Part) : List Part :=
  if text = [] then parts else .text (String.ofList text.reverse) :: parts

/-- A directive behind its percent sign, what follows it, and a warning if it means nothing. -/
def readDirective (text : List Char) : Except String (Part × List Char × Option String) := do
  let (d, rest) := Format.Directive.ofText text
  let reserved (c : Char) : String :=
    "error: the format directive " ++ marked ("%" ++ c.toString) ++ " is reserved for future use"
  match rest with
  | [] => throw (reserved '\x00')
  | c :: rest =>
    let plain (warning : String) : Part × List Char × Option String :=
      (.text ("%" ++ String.ofList (text.take (text.length - rest.length))), rest, some warning)
    if c ∈ valueLetters then return (.value d c, rest, none)
    else if c ∈ timeLetters then
      match rest with
      | next :: rest => return (.time d (if c = 'B' then ' ' else next), rest, none)
      | [] =>
        return plain ("warning: format directive " ++ marked ("%" ++ c.toString) ++
          " should be followed by another character")
    else if c ∈ ['\x7b', '[', '('] then throw (reserved c)
    else
      return plain ("warning: unrecognized format directive " ++ marked ("%" ++ c.toString))

/-- The parts of a format, with warnings of what means nothing in it. `text` is the plain text
before what is read. -/
def readParts : Nat → (text : List Char) → List Char → Except String (List Part × List String)
  | 0, text, _ | _, text, [] => .ok (withText text [], [])
  | fuel + 1, text, '\\' :: rest =>
    match rest with
    | [] =>
      .ok (withText ('\\' :: text) [],
        ["warning: escape " ++ marked "\\" ++ " followed by nothing at all"])
    | 'c' :: _ => .ok (withText text [.stop], [])
    | c :: more =>
      if Format.isOctal c then
        let digits := (rest.take 3).takeWhile Format.isOctal
        let code := (Integer.digits 8 digits).1 % 256
        readParts fuel (Char.ofNat code :: text) (rest.drop digits.length)
      else match escapes.lookup c with
        | some denoted => readParts fuel (denoted :: text) more
        | none => do
          let (parts, warnings) ← readParts fuel (c :: '\\' :: text) more
          return (parts, ("warning: unrecognized escape " ++ marked ("\\" ++ c.toString)) :: warnings)
  | fuel + 1, text, '%' :: rest =>
    match rest with
    | [] => .error "error: % at end of format string"
    | '%' :: rest => readParts fuel ('%' :: text) rest
    | _ => do
      let (part, rest, warning) ← readDirective rest
      let (parts, warnings) ← readParts fuel [] rest
      return (withText text (part :: parts), warning.toList ++ warnings)
  | fuel + 1, text, c :: rest => readParts fuel (c :: text) rest

/-- The parts of a format, with warnings of what means nothing in it. -/
def formatParts (format : String) : Except String (List Part × List String) :=
  readParts (format.length + 1) [] format.toList

end FileScript.Shell.Finding
