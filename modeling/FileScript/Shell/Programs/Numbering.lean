import FileScript.Shell.Format
import FileScript.Shell.LinePattern.Matching
import FileScript.Shell.LinePattern.Reader
import FileScript.Shell.Programs.Size

/-!
# Numbered lines

A program that writes numbers before lines. Lines of a special form divide texts into pages with a
header, a body and a footer; for each of these it can be chosen which lines are numbered.
-/

namespace FileScript.Shell

namespace Programs

open Effect

namespace Numbering

/-- Which lines are numbered. -/
inductive Style where
  | all
  | filled
  | none
  | fitting (e : LinePattern.Expression)
  deriving Repr, Inhabited

/-- How a number is aligned. -/
inductive Alignment where
  | left
  | right
  | zeros
  deriving DecidableEq, Repr, Inhabited

/-- A part of a page. -/
inductive Section where
  | header
  | body
  | footer
  deriving DecidableEq, Repr, Inhabited

/-- How lines are numbered. -/
structure Scheme where
  styleOf : Section → Style
  alignment : Alignment := .right
  width : Nat := 6
  separator : String := "\t"
  first : Int := 1
  step : Int := 1
  /-- Of so many empty lines, one is numbered. -/
  joined : Nat := 1
  /-- Whether numbers begin anew in each part of a page. -/
  renumbers : Bool := true
  /-- What the lines are made of that begin a part of a page. -/
  mark : String := "\\:"

/-- The numbering as far as it has come. -/
structure Progress where
  part : Section := .body
  number : Int
  /-- How many empty lines have come one after the other without a number. -/
  empty : Nat := 0
  output : String := ""
  /-- Whether the numbers have become too large. -/
  isFull : Bool := false

namespace Scheme

/-- A number as it stands before a line. -/
def shown (s : Scheme) (n : Int) : String :=
  let d : Format.Directive := {
    width := s.width, leftAligned := s.alignment = .left, zeros := s.alignment = .zeros }
  d.signed n ++ s.separator

/-- The part of a page that a line begins. -/
def part? (s : Scheme) (line : String) : Option Section :=
  if s.mark = "" then none
  else if line = s.mark ++ s.mark ++ s.mark then some .header
  else if line = s.mark ++ s.mark then some .body
  else if line = s.mark then some .footer
  else none

/-- Adds a line without a number. -/
def addBare (s : Scheme) (line : String) (p : Progress) : Progress :=
  let blank := "".pushn ' ' (s.width + s.separator.length)
  { p with output := p.output ++ blank ++ line ++ "\n" }

/-- Adds a line with a number. -/
def addNumbered (s : Scheme) (line : String) (p : Progress) : Progress :=
  if p.number > Int64.maxValue.toInt then { p with isFull := true }
  else
    { p with
      output := p.output ++ s.shown p.number ++ line ++ "\n", number := p.number + s.step }

/-- Adds a line. -/
def add (s : Scheme) (p : Progress) (line : String) : Progress :=
  if p.isFull then p
  else match s.part? line with
  | some part =>
    { p with
      part, output := p.output.push '\n', number := if s.renumbers then s.first else p.number }
  | none =>
    match s.styleOf p.part with
    | .none => s.addBare line p
    | .filled => if line = "" then s.addBare line p else s.addNumbered line p
    | .fitting e =>
      if e.occursIn {} (Octets.pieces line) then s.addNumbered line p else s.addBare line p
    | .all =>
      if s.joined ≤ 1 ∨ line ≠ "" then s.addNumbered line { p with empty := 0 }
      else if p.empty + 1 = s.joined then s.addNumbered line { p with empty := 0 }
      else s.addBare line { p with empty := p.empty + 1 }

end Scheme

/-! ## Words -/

/-- The options. -/
def known : List Known :=
  [valued 'h' "header-numbering", valued 'b' "body-numbering", valued 'f' "footer-numbering",
    valued 'v' "starting-line-number", valued 'i' "line-increment", flag 'p' "no-renumber",
    valued 'l' "join-blank-lines", valued 's' "number-separator", valued 'w' "number-width",
    valued 'n' "number-format", valued 'd' "section-delimiter"]

/-- What is wrong with a word: the program ends, or it is told how the program is called. -/
inductive Fault where
  | fatal (text : String)
  | use (text : String)
  deriving Repr, Inhabited

/-- The style that a word denotes. -/
def styleOf (what word : String) : Except Fault Style :=
  match word.toList with
  | 'a' :: _ => .ok .all
  | 't' :: _ => .ok .filled
  | 'n' :: _ => .ok .none
  | 'p' :: pattern =>
    let d : LinePattern.Dialect := { lenient := true, checksClasses := false }
    match LinePattern.read d (Octets.pieces (String.ofList pattern)) with
    | .ok (e, _) => .ok (.fitting e)
    | .error fault => .error (.fatal fault.text)
  | _ => .error (.use s!"invalid {what} numbering style: {Quoting.value word}")

/-- The lines that separate parts of pages are made of this. -/
def markOf (word : String) : String := if word.length = 1 then word ++ ":" else word

/-- A scheme with what an option asks for. -/
def withOption (s : Scheme) (key word : String) : Except Fault Scheme := do
  let styled (part : Section) (what : String) : Except Fault Scheme := do
    let style ← styleOf what word
    return { s with styleOf := fun other => if other = part then style else s.styleOf other }
  let number (what : String) (least most : Int) : Except Fault Int :=
    (integerOf what word least most).mapError .fatal
  let least := Int64.minValue.toInt
  let most := Int64.maxValue.toInt
  match key with
  | "header-numbering" => styled .header "header"
  | "body-numbering" => styled .body "body"
  | "footer-numbering" => styled .footer "footer"
  | "starting-line-number" =>
    return { s with first := ← number "invalid starting line number" least most }
  | "line-increment" =>
    return { s with step := ← number "invalid line number increment" least most }
  | "no-renumber" => return { s with renumbers := false }
  | "join-blank-lines" =>
    return { s with joined := (← number "invalid line number of blank lines" 1 most).toNat }
  | "number-separator" => return { s with separator := word }
  | "number-width" =>
    let width ← number "invalid line number field width" 1 Int32.maxValue.toInt
    return { s with width := width.toNat }
  | "number-format" =>
    match word with
    | "ln" => return { s with alignment := .left }
    | "rn" => return { s with alignment := .right }
    | "rz" => return { s with alignment := .zeros }
    | _ => throw (.use s!"invalid line numbering format: {Quoting.value word}")
  | "section-delimiter" => return { s with mark := markOf word }
  | _ => return s

/-- The scheme that options ask for; or the first fault that ends the program, with what is said
before it. -/
def withOptions : Scheme → (told : List String) → List (String × String) →
    Except (List String × Option String) Scheme
  | s, told, [] => if told = [] then .ok s else .error (told, none)
  | s, told, (key, word) :: rest =>
    match withOption s key word with
    | .ok s => withOptions s told rest
    | .error (.use text) => withOptions s (told ++ [text]) rest
    | .error (.fatal text) => .error (told, some text)

end Numbering

/-- Prints lines with numbers before them. -/
def nl (words : List String) : Effect Nat :=
  called Numbering.known words fun call => do
    let styleOf (part : Numbering.Section) : Numbering.Style :=
      if part = .body then .filled else .none
    match Numbering.withOptions { styleOf } [] call.options with
    | .error (told, some text) =>
      told.forM tell
      refuse text
    | .error (told, none) =>
      told.dropLast.forM tell
      misused (told.getLastD "")
    | .ok s =>
      let (p, status) ← foldTexts call.inputs { number := s.first } fun p text => do
        let p := (linesOf text).foldl s.add p
        print p.output
        return { p with output := "" }
      checkInput "-: Bad file descriptor" call.inputs
      if p.isFull then return ← refuse "line number overflow"
      return status

end Programs

end FileScript.Shell
