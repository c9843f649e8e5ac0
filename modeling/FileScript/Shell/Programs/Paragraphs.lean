import FileScript.Shell.Programs.Columns

/-!
# Paragraphs

A program that fills the lines of paragraphs. Where the lines of a paragraph are broken is decided
for all of them at once: every line costs the more, the further it is from the wanted width and from
the width of the line behind it, and it also matters between which words it ends.
-/

namespace FileScript.Shell

namespace Programs

open Effect

namespace Filling

/-- Which lines belong to a paragraph, and how they are indented. -/
inductive Shape where
  /-- Lines with the same indentation. -/
  | plain
  /-- Each line by itself. -/
  | split
  /-- The first line can be indented in another way than the others. -/
  | crown
  /-- The first line is indented in another way than the others. -/
  | tagged
  deriving DecidableEq, Repr, Inhabited

/-- How paragraphs are filled. -/
structure Style where
  width : Nat := 75
  goal : Nat
  shape : Shape := .plain
  /-- Whether there is one space between words and there are two behind a sentence. -/
  uniform : Bool := false
  /-- What the lines begin with that are filled, without the spaces around it. -/
  mark : List Char := []
  /-- How many spaces stand before the mark at least. -/
  lead : Nat := 0
  /-- How many spaces stand behind it. -/
  trail : Nat := 0

/-- A word, and what matters for the lines around it. -/
structure Item where
  text : List Char
  length : Nat
  /-- How many spaces follow. -/
  space : Nat := 1
  /-- Whether it begins with an opening bracket or a quote. -/
  opens : Bool := false
  /-- Whether it ends as sentences do. -/
  stops : Bool := false
  /-- Whether it ends with a punctuation mark. -/
  punctuated : Bool := false
  /-- Whether it ends a sentence. -/
  final : Bool := false
  deriving Inhabited

/-- A word without the spaces behind it. -/
def Item.ofText (text : List Char) : Item :=
  let inner := match text.reverse with
    | [] => []
    | last :: rest =>
      let inner := (last :: rest).dropWhile (")]'\"".contains ·)
      if inner = [] then text.take 1 else inner
  { text, length := text.length
    opens := text.head?.any ("(['\x60\"".contains ·)
    punctuated := text.getLast?.any fun c => '!'.toNat ≤ c.toNat && c.toNat < 127 && !c.isAlphanum
    stops := inner.head?.any (".?!".contains ·) }

/-! ## Breaking paragraphs -/

/-- A line that begins with a word, and the cost of all lines from it on. -/
structure Break where
  cost : Int
  length : Nat
  /-- How many words are on the line. -/
  size : Nat
  /-- Whether it is the last line. -/
  isLast : Bool
  deriving Inhabited

/-- The cost of a distance from the wanted width. -/
def costOf (distance : Int) : Int := 100 * distance * distance

/-- The cost of a difference between the widths of two lines. -/
def unevenCost (a b : Nat) : Int := costOf (a - b) / 2

/-- The cost of a line that begins with a word behind two others, as far as there are any. -/
def startCost (before last : Option Item) (item : Item) : Int :=
  let behind : Int := match last with
    | none => 0
    | some last =>
      if last.stops then (if last.final then -2500 else 360000)
      else if last.punctuated then -1600
      else if before.any (·.final) then 40000 / (last.length + 2)
      else 0
  let ahead : Int :=
    if item.opens then -1600 else if item.final then 22500 / (item.length + 2) else 0
  4900 + behind + ahead

/-- The best end of a line that is so long as yet. The words behind it come with the breaks that are
best for them, and `space` is the space before the next one. -/
def bestBreak (s : Style) (extra : Nat → Int) : (length space size : Nat) →
    (best : Option Break) → List (Item × Break) → Break
  | length, _, size, best, [] =>
    let found : Break := { cost := extra length, length, size, isLast := true }
    match best with
    | some other => if found.cost < other.cost then found else other
    | none => found
  | length, space, size, best, (item, next) :: rest =>
    let uneven := if next.isLast then 0 else unevenCost length next.length
    let cost := costOf (s.goal - length) + uneven + next.cost + extra length
    let found : Break := { cost, length, size, isLast := false }
    let best := match best with
      | some other => if cost < other.cost then found else other
      | none => found
    let longer := length + space + item.length
    if longer < s.width then bestBreak s extra longer item.space (size + 1) (some best) rest
    else best

/-- The words before each word of a list: the one before the last, and the last. -/
def withBefore : (before last : Option Item) → List Item → List (Option Item × Option Item × Item)
  | _, _, [] => []
  | before, last, item :: rest => (before, last, item) :: withBefore last (some item) rest

/-- The best break behind each word of a paragraph. `first` and `other` are the indentations, and
`lastLength` is the length of the line before the paragraph if it belongs to it, or 0. -/
def plan (s : Style) (first other lastLength : Nat) (items : List Item) : List (Item × Break) :=
  (withBefore none none items).foldr (fun (before, last, item) following =>
    let indent := if last.isNone then first else other
    let extra (length : Nat) : Int :=
      if last.isNone ∧ lastLength > 0 then unevenCost length lastLength else 0
    let best := bestBreak s extra (indent + item.length) item.space 1 none following
    (item, { best with cost := best.cost + startCost before last item }) :: following) []

/-! ## Printing -/

/-- How far a text has been filled. -/
structure Progress where
  /-- What has not been read. -/
  rest : List Char
  output : String := ""
  /-- The column up to which the present line has been read. -/
  column : Nat := 0
  /-- The column of the mark in it. -/
  indent : Nat := 0
  /-- The columns of the mark, the first line and the other lines of the paragraph. -/
  markIndent : Nat := 0
  firstIndent : Nat := 0
  otherIndent : Nat := 0
  lastLength : Nat := 0
  /-- Whether a tab has been read. -/
  tabs : Bool := false
  /-- The words of the paragraph. -/
  items : Array Item := #[]
  /-- How many characters the words have. -/
  held : Nat := 0

/-- Spaces from a column on, for which tabs can stand. -/
def spaces (tabs : Bool) (column count : Nat) : String :=
  let goal := column + count
  let tabGoal := goal / 8 * 8
  if tabs ∧ column + 1 < tabGoal then
    ("".pushn '\t' ((tabGoal - column / 8 * 8) / 8)).pushn ' ' (goal - tabGoal)
  else "".pushn ' ' count

/-- The words of a line from a column on, and the column behind them. -/
def lineText (tabs : Bool) : (column : Nat) → List Item → String × Nat
  | column, [] => ("", column)
  | column, [item] => (String.ofList item.text, column + item.length)
  | column, item :: rest =>
    let next := column + item.length
    let (more, last) := lineText tabs (next + item.space) rest
    (String.ofList item.text ++ spaces tabs next item.space ++ more, last)

namespace Progress

/-- Prints a line of the paragraph. -/
def putLine (s : Style) (p : Progress) (indent : Nat) (items : List Item) : Progress :=
  let column := p.markIndent + s.mark.length
  let before := spaces p.tabs 0 p.markIndent ++ String.ofList s.mark ++
    spaces p.tabs column (indent - column)
  let (text, last) := lineText p.tabs (max indent column) items
  { p with output := (p.output ++ before ++ text).push '\n', lastLength := last }

/-- Prints the lines of a plan, of which there are so many words at most. -/
def putLines (s : Style) : (fuel count : Nat) → (indent : Nat) → Progress → List (Item × Break) →
    Progress
  | 0, _, _, p, _ | _, _, _, p, [] => p
  | fuel + 1, count, indent, p, (item, best) :: rest =>
    if count = 0 then p
    else
      let line := item :: (rest.take (best.size - 1)).map (·.1)
      putLines s fuel (count - best.size) p.otherIndent (p.putLine s indent line)
        (rest.drop (best.size - 1))

/-- The plan for the words of the paragraph. -/
def planned (s : Style) (p : Progress) : List (Item × Break) :=
  plan s p.firstIndent p.otherIndent p.lastLength p.items.toList

/-- Prints the whole paragraph. -/
def putAll (s : Style) (p : Progress) : Progress :=
  p.putLines s p.items.size p.items.size p.firstIndent (p.planned s)

/-- Sets the indentation of the lines behind the first. -/
def setOther (s : Style) (continues : Bool) (p : Progress) : Progress :=
  let otherIndent := match s.shape with
    | .split | .plain => p.firstIndent
    | .crown => if continues then p.column else p.firstIndent
    | .tagged =>
      if continues ∧ p.column ≠ p.firstIndent then p.column
      else if p.otherIndent = p.firstIndent then (if p.firstIndent = 0 then 3 else 0)
      else p.otherIndent
  { p with otherIndent }

/-- How many words of a plan are printed when the paragraph is too long to be held: up to a line that
costs little, later ones before others. `start` is how many words come before the plan. -/
def splitPoint : (fuel start : Nat) → (point : Nat) → (least : Option Int) →
    List (Item × Break) → Nat
  | 0, _, point, _, _ | _, _, point, _, [] => point
  | fuel + 1, start, point, least, (_, best) :: rest =>
    let following := rest.drop (best.size - 1)
    let next := start + best.size
    let own := best.cost - (following.head?.map (·.2.cost)).getD 0
    if start > 0 ∧ least.all (own < ·) then
      splitPoint fuel next start (some (own + 9)) following
    else splitPoint fuel next point (least.map (· + 9)) following

/-- Prints lines of a paragraph that is too long to be held. -/
def flush (s : Style) (p : Progress) : Progress :=
  let p := p.setOther s true
  let lines := p.planned s
  let size := p.items.size
  let point := splitPoint size 0 size none lines
  let p := p.putLines s size point p.firstIndent lines
  let items := p.items.extract point size
  { p with items, held := items.foldl (fun n item => n + item.length) 0 }

end Progress

/-! ## Reading -/

/-- How many words and characters of a paragraph are held. -/
def itemLimit : Nat := 998

/-- How many characters of a paragraph are held. -/
def charLimit : Nat := 5000

namespace Progress

/-- Passes spaces and tabs. -/
def pastSpace (p : Progress) : Progress :=
  let blanks := p.rest.takeWhile isSpacing
  let column := blanks.foldl (fun column c =>
    if c = '\t' then (column / 8 + 1) * 8 else column + 1) p.column
  { p with
    rest := p.rest.drop blanks.length, column, tabs := p.tabs || blanks.contains '\t' }

/-- The common beginning of a mark and what is left of a text. -/
def passMark : Progress → List Char → Progress × Bool
  | p, [] => (p, true)
  | p, m :: mark =>
    match p.rest with
    | c :: rest =>
      if c = m then passMark { p with rest, column := p.column + 1 } mark else (p, false)
    | [] => (p, false)

/-- Reads the beginning of a line up to its first word. -/
def openLine (s : Style) (p : Progress) : Progress :=
  let p := { p with column := 0 }.pastSpace
  if s.mark = [] then { p with indent := min s.lead p.column }
  else
    match { p with indent := p.column }.passMark s.mark with
    | (p, true) => p.pastSpace
    | (p, false) => p

/-- Whether the text goes on in the present line. -/
def hasText (p : Progress) : Bool := p.rest.head?.any (· ≠ '\n')

/-- The length of the mark with the spaces behind it. -/
def markSize (s : Style) : Nat := s.mark.length + s.trail

/-- Whether the present line goes on with the paragraph. -/
def continues (s : Style) (p : Progress) : Bool :=
  p.indent = p.markIndent && p.indent + markSize s ≤ p.column && p.hasText

/-- Adds the characters of a word to what is held, which can become too much. -/
def hold (s : Style) : Nat → Progress → (held text : List Char) → Progress × List Char
  | 0, p, held, text => (p, held ++ text)
  | fuel + 1, p, held, text =>
    let room := charLimit - p.held - held.length
    if text.length ≤ room then (p, held ++ text)
    else
      let held := held ++ text.take room
      if p.items.isEmpty then
        hold s fuel { p with output := p.output ++ String.ofList held } [] (text.drop room)
      else hold s fuel ((p.setOther s true).flush s) held (text.drop room)

/-- Reads the words of a line, and the beginning of the next line. -/
def readLine (s : Style) : Nat → Progress → Progress
  | 0, p => p
  | fuel + 1, p =>
    let text := p.rest.take 1 ++ p.rest.tail.takeWhile (!isBlank ·)
    let rest := p.rest.drop text.length
    let (p, text) := hold s (text.length + 1) p [] text
    let start := p.column + text.length
    let p := { p with rest, column := start }.pastSpace
    let isEnd := !p.hasText
    let item := Item.ofText text
    let space := p.column - start
    let final := p.rest = [] || item.stops && (isEnd || space > 1)
    let space := if isEnd || s.uniform then (if final then 2 else 1) else space
    let p := if p.items.size = itemLimit then p.flush s else p
    let p := { p with
      items := p.items.push { item with space, final }, held := p.held + item.length }
    if isEnd then { p with rest := p.rest.tail }.openLine s else readLine s fuel p

/-- Reads further lines of a paragraph while they go on with it. -/
def readLines (s : Style) (fits : Progress → Bool) : Nat → Progress → Progress
  | 0, p => p
  | fuel + 1, p =>
    if p.continues s ∧ fits p then readLines s fits fuel (p.readLine s (p.rest.length + 1)) else p

/-- Reads and prints a paragraph. -/
def fillParagraph (s : Style) (p : Progress) : Progress :=
  let fuel := p.rest.length + 1
  let p := { p with markIndent := p.indent, firstIndent := p.column, items := #[], held := 0 }
  let p := p.readLine s fuel
  let p := p.setOther s (p.continues s)
  let isOther (p : Progress) : Bool := p.column = p.otherIndent
  let p := match s.shape with
    | .split => p
    | .plain => p.readLines s isOther fuel
    | .crown => if p.continues s then (p.readLine s fuel).readLines s isOther fuel else p
    | .tagged =>
      if p.continues s ∧ p.column ≠ p.firstIndent then
        (p.readLine s fuel).readLines s isOther fuel
      else p
  let ended (item : Item) : Item := { item with stops := true, final := true }
  { p with items := p.items.modify (p.items.size - 1) ended }.putAll s

/-- Prints the rest of a line as it stands. -/
def copyLine (s : Style) (p : Progress) : Progress :=
  let text := p.rest.takeWhile (· ≠ '\n')
  let before :=
    if p.column > p.indent ∨ p.hasText then
      let mark := s.mark.take (p.column - p.indent)
      let column := p.indent + mark.length
      let isBare := p.rest = [] && p.indent + s.mark.length ≤ p.column
      spaces p.tabs 0 p.indent ++ String.ofList mark ++
        (if p.hasText then spaces p.tabs column (p.column - column) else "") ++
        if isBare then "\n" else ""
    else ""
  { p with output := p.output ++ before ++ String.ofList text, rest := p.rest.drop text.length }

/-- Fills paragraphs to the end of a text. -/
def fill (s : Style) : Nat → Progress → Progress
  | 0, p => p
  | fuel + 1, p =>
    let isFilled := p.hasText && s.lead ≤ p.indent && p.indent + markSize s ≤ p.column
    if isFilled then fill s fuel ({ p with lastLength := 0 }.fillParagraph s)
    else
      let p := p.copyLine s
      match p.rest with
      | [] => p
      | _ :: rest => fill s fuel ({ p with output := p.output.push '\n', rest }.openLine s)

end Progress

/-- A text with its paragraphs filled. -/
def Style.apply (s : Style) (text : String) : String :=
  let p : Progress := { rest := text.toList }
  ((p.openLine s).fill s (2 * text.length + 2)).output

/-- A style for lines that begin with a mark. -/
def Style.marked (s : Style) (mark : String) : Style :=
  let lead := mark.toList.takeWhile (· = ' ')
  let text := mark.toList.drop lead.length
  let trail := text.reverse.takeWhile (· = ' ')
  { s with mark := text.take (text.length - trail.length), lead := lead.length
           trail := trail.length }

end Filling

/-- The width and the wanted width that a call asks for; or what is wrong with them. -/
def widthsOf (call : Call) : Except String (Nat × Nat) := do
  let width? ← (call.value? "width").mapM (countOf "invalid width" "" · 0 2500)
  let width := width?.getD 75
  match call.value? "goal" with
  | none => return (width, width * 187 / 200)
  | some word =>
    let goal ← countOf "invalid width" "" word 0 width
    return (width?.getD (goal + 10), goal)

/-- Fills the lines of paragraphs. -/
def fmt (words : List String) : Effect Nat := do
  let words := match words with
    | word :: rest =>
      if word.startsWith "-" ∧ (word.toList.drop 1).head?.any Char.isDigit then
        "-w" :: (word.drop 1).toString :: rest
      else words
    | [] => []
  let known := [flag 'c' "crown-margin", flag 's' "split-only", flag 't' "tagged-paragraph",
    flag 'u' "uniform-spacing", valued 'w' "width", valued 'p' "prefix", valued 'g' "goal"]
  called (known ++ flags "0123456789") words fun call => do
    if let some digit := call.options.find? fun (key, _) => key.toList.all Char.isDigit then
      return ← misused (s!"invalid option -- {digit.1}; -WIDTH is recognized only when it is the " ++
        "first\noption; use -w N instead")
    match widthsOf call with
    | .error text => refuse text
    | .ok (width, goal) =>
      let shape : Filling.Shape :=
        if call.has "split-only" then .split
        else if call.has "crown-margin" then .crown
        else if call.has "tagged-paragraph" then .tagged
        else .plain
      let s : Filling.Style := { width, goal, shape, uniform := call.has "uniform-spacing" }
      let s := match call.value? "prefix" with
        | some mark => s.marked mark
        | none => s
      let statuses ← call.inputs.mapM fun path => do
        match ← readFile path with
        | .ok text =>
          print (s.apply text)
          return 0
        | .error (.opening reason) =>
          refuse s!"cannot open {Quoting.always path} for reading: {reason}"
        | .error (.reading _) => refuse "read error"
      checkInput "closing standard input: Bad file descriptor" call.inputs
      return worst statuses

end Programs

end FileScript.Shell
