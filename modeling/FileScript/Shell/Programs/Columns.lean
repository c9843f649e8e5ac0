import FileScript.Shell.Programs.Size

/-!
# Columns

Programs that look at the column in which a character stands: they break lines that are too wide, and
replace tabs by spaces or spaces by tabs. Columns are counted from 0 on.
-/

namespace FileScript.Shell

namespace Programs

open Effect

/-- Whether a character only separates others within a line. -/
def isSpacing (c : Char) : Bool := c = ' ' || c = '\t'

/-! ## Lines that are too wide -/

namespace Folding

/-- How lines are broken. -/
structure Style where
  width : Nat := 80
  /-- Whether every byte takes one column. -/
  bytes : Bool := false
  /-- Whether lines are broken behind blanks, if they have any. -/
  atBlanks : Bool := false

/-- The column behind a character that stands in a column. -/
def Style.columnAfter (s : Style) (column : Nat) (c : Char) : Nat :=
  if s.bytes then column + 1
  else if c = '\x08' then column - 1
  else if c = '\r' then 0
  else if c = '\t' then column + 8 - column % 8
  else column + 1

/-- A text that has been broken so far. -/
structure Progress where
  output : String := ""
  /-- The line that has not been printed, from its end on. -/
  line : List Char := []
  column : Nat := 0

/-- The text with the line that has not been printed. -/
def Progress.finished (p : Progress) : String := p.output ++ String.ofList p.line.reverse

/-- Adds a character to the line, or to the next one if it does not fit. -/
def Style.place (s : Style) (p : Progress) (c : Char) : Progress :=
  let column := s.columnAfter p.column c
  if column ≤ s.width ∨ p.line = [] then { p with line := c :: p.line, column }
  else { output := p.finished.push '\n', line := [c], column := s.columnAfter 0 c }

/-- Adds a character. If it does not fit, the line can be broken behind its last blank. -/
def Style.add (s : Style) (p : Progress) (c : Char) : Progress :=
  if c = '\n' then { output := p.finished.push '\n' }
  else if s.atBlanks ∧ s.columnAfter p.column c > s.width ∧ p.line.any isSpacing then
    let moved := p.line.takeWhile fun c => !isSpacing c
    let kept := p.line.drop moved.length
    let output := (p.output ++ String.ofList kept.reverse).push '\n'
    s.place { output, line := moved, column := moved.reverse.foldl s.columnAfter 0 } c
  else s.place p c

end Folding

/-- Options whose key is a digit, with the digits that may follow. -/
def digitsOptions : List Known := "0123456789".toList.map fun c => flag c "" .ownValue

/-- The digits in an option whose key is one. -/
def digitsOf? (key value : String) : Option String :=
  if key.toList.all Char.isDigit then some (key ++ value) else none

/-- Breaks lines that are too wide. -/
def fold (words : List String) : Effect Nat :=
  called ([flag 'b' "bytes", flag 's' "spaces", valued 'w' "width"] ++ digitsOptions) words
    fun call => do
      let widths := call.options.filterMap fun (key, value) =>
        if key = "width" then some value else digitsOf? key value
      match widths.mapM (countOf "invalid number of columns" "" · 1 (greatestSize - 9)) with
      | .error text => refuse text
      | .ok widths =>
        let s : Folding.Style := {
          width := widths.getLastD 80, bytes := call.has "bytes", atBlanks := call.has "spaces" }
        let status ← forTexts call.inputs fun _ text => print (text.foldl s.add {}).finished
        checkInput "-: Bad file descriptor" call.inputs
        return status

/-! ## Tab stops -/

/-- The columns to which tabs lead. -/
structure TabStops where
  stops : List Nat := []
  /-- Behind the stops, every multiple of this is one, unless it is 0. -/
  every : Nat := 0
  /-- Behind the stops, there is one at such distances from the last, unless this is 0. -/
  apart : Nat := 0

namespace TabStops

/-- The first column behind another one that lies at a multiple of a distance from `start`. -/
def nextMultiple (start distance column : Nat) : Nat :=
  column + (distance - (column - start) % distance)

/-- The first tab stop behind a column. -/
def next? (t : TabStops) (column : Nat) : Option Nat :=
  match t.stops with
  | [] =>
    let distance := if t.every > 0 then t.every else if t.apart > 0 then t.apart else 8
    some (nextMultiple 0 distance column)
  | stops =>
    if stops.length = 1 ∧ t.every = 0 ∧ t.apart = 0 then
      some (nextMultiple 0 (stops.headD 8) column)
    else match stops.find? (column < ·) with
      | some stop => some stop
      | none =>
        if t.every > 0 then some (nextMultiple 0 t.every column)
        else if t.apart > 0 then some (nextMultiple (stops.getLastD 0) t.apart column)
        else none

/-- What is wrong with tab stops. -/
def fault? (t : TabStops) : Option String :=
  if 0 ∈ t.stops then some "tab size cannot be 0"
  else if (t.stops.zip t.stops.tail).any fun (a, b) => b ≤ a then some "tab sizes must be ascending"
  else if t.every > 0 ∧ t.apart > 0 then some "'/' specifier is mutually exclusive with '+'"
  else none

/-- Tab stops as far as they have been read. -/
structure Reading where
  tabs : TabStops := {}
  /-- The digits of the last number. -/
  digits : List Char := []
  /-- What stands before a number, and holds for those behind it too. -/
  mark : Option Char := none
  mistakes : List String := []

namespace Reading

/-- Notes a mistake. -/
def refused (r : Reading) (text : String) : Reading := { r with mistakes := r.mistakes ++ [text] }

/-- Ends the last number. -/
def settled (r : Reading) : Reading :=
  if r.digits = [] then r
  else
    let n := (Integer.digits 10 r.digits).1
    let tabs := r.tabs
    let rest := { r with digits := [] }
    if n > greatestSize then
      rest.refused s!"tab stop is too large {Quoting.value (String.ofList r.digits)}"
    else match r.mark with
      | none => { rest with tabs := { tabs with stops := tabs.stops ++ [n] } }
      | some mark =>
        let known := if mark = '/' then tabs.every else tabs.apart
        if known > 0 then
          rest.refused s!"'{mark}' specifier only allowed with the last value"
        else if mark = '/' then { rest with tabs := { tabs with every := n } }
        else { rest with tabs := { tabs with apart := n } }

/-- Reads numbers with commas or blanks between them. -/
def read : Reading → List Char → Reading
  | r, [] => if r.mistakes = [] then r.settled else r
  | r, c :: rest =>
    if c = ',' ∨ isSpacing c then
      let settled := r.settled
      if settled.mistakes = r.mistakes then settled.read rest else settled
    else if c = '/' ∨ c = '+' then
      let text := Quoting.value (String.ofList (c :: rest))
      let r := if r.digits = [] then r
        else r.refused s!"'{c}' specifier not at start of number: {text}"
      { r with mark := some c }.read rest
    else if c.isDigit then { r with digits := r.digits ++ [c] }.read rest
    else
      let text := Quoting.value (String.ofList (c :: rest))
      r.refused s!"tab size contains invalid character(s): {text}"

end Reading

/-- Adds the tab stops in a word to others. -/
def withWord (tabs : TabStops) (word : String) : Except (List String) TabStops :=
  let r := ({ tabs } : Reading).read word.toList
  if r.mistakes = [] then .ok r.tabs else .error r.mistakes

/-- Ends a program if tab stops are wrong, and lets it go on with them otherwise. -/
def used (found : Except (List String) TabStops) (act : TabStops → Effect Nat) : Effect Nat := do
  match found with
  | .error mistakes =>
    mistakes.forM tell
    return 1
  | .ok tabs =>
    match tabs.fault? with
    | some text => refuse text
    | none => act tabs

end TabStops

/-! ## Tabs to spaces -/

namespace Expanding

/-- A text of which tabs have been replaced so far. -/
structure Progress where
  output : String := ""
  column : Nat := 0
  /-- Whether tabs are still replaced in this line. -/
  active : Bool := true

/-- Adds a character. `whole` says whether tabs behind other characters are replaced too. -/
def add (tabs : TabStops) (whole : Bool) (p : Progress) (c : Char) : Progress :=
  if c = '\n' then { output := p.output.push '\n' }
  else if !p.active then { p with output := p.output.push c }
  else
    let active := whole || isSpacing c
    if c = '\t' then
      let column := (tabs.next? p.column).getD (p.column + 1)
      { output := p.output.pushn ' ' (column - p.column), column, active }
    else
      let column := if c = '\x08' then p.column - 1 else p.column + 1
      { output := p.output.push c, column, active }

end Expanding

/-- Replaces tabs by spaces. -/
def expand (words : List String) : Effect Nat :=
  called ([flag 'i' "initial", valued 't' "tabs"] ++ digitsOptions) words fun call => do
    let stops := call.options.filterMap fun (key, value) =>
      if key = "tabs" then some value else digitsOf? key value
    TabStops.used (stops.foldlM TabStops.withWord {}) fun tabs => do
      let whole := !call.has "initial"
      let (_, status) ← foldTexts call.inputs {} fun p text => do
        let p := text.foldl (Expanding.add tabs whole) p
        print p.output
        return { p with output := "" }
      checkInput "-: Bad file descriptor" call.inputs
      return status

/-! ## Spaces to tabs -/

namespace Unexpanding

/-- A text of which spaces have been replaced so far. -/
structure Progress where
  output : String := ""
  column : Nat := 0
  /-- Whether spaces are still replaced in this line. -/
  active : Bool := true
  /-- The blanks that may be replaced. -/
  pending : List Char := []
  /-- Whether the first of these is a single one that stands before a tab stop. -/
  isEdge : Bool := false
  /-- Whether a blank has come last. A line begins as if one had. -/
  afterBlank : Bool := true

namespace Progress

/-- Prints the blanks that are not replaced. One before a tab stop becomes a tab if others follow. -/
def settled (p : Progress) : Progress :=
  let blanks := if p.isEdge ∧ p.pending.length > 1 then '\t' :: p.pending.tail else p.pending
  { p with output := p.output ++ String.ofList blanks, pending := [], isEdge := false }

/-- Prints a character, after which spaces may not be replaced any more. -/
def put (p : Progress) (c : Char) (active : Bool) : Progress :=
  { p with output := p.output.push c, active, afterBlank := isSpacing c }

/-- Replaces the blanks that lead to a column by tabs. -/
def replaced (p : Progress) (column : Nat) : Progress :=
  { p with
    output := p.output ++ if p.isEdge then "\t\t" else "\t"
    column, pending := [], isEdge := false, afterBlank := true }

end Progress

/-- Adds a character. `whole` says whether blanks behind other characters are replaced too. -/
def add (tabs : TabStops) (whole : Bool) (p : Progress) (c : Char) : Progress :=
  if c = '\n' then { output := p.settled.output.push '\n' }
  else if !p.active then { p with output := p.output.push c }
  else if !isSpacing c then
    let column := if c = '\x08' then p.column - 1 else p.column + 1
    { p.settled with column }.put c whole
  else match tabs.next? p.column with
    | none => p.settled.put c false
    | some next =>
      if c = '\t' then p.replaced next
      else
        let column := p.column + 1
        if p.afterBlank ∧ column = next then p.replaced next
        else
          { p with
            column, pending := p.pending ++ [c], afterBlank := true
            isEdge := p.isEdge || column = next }

end Unexpanding

/-- The tab stops that options ask for, each of which is a digit, a comma or tab stops. -/
def stopsOf : TabStops → (digits : List Char) → List (String × String) →
    Except (List String) TabStops
  | tabs, digits, [] => if digits = [] then .ok tabs else tabs.withWord (String.ofList digits)
  | tabs, digits, (key, value) :: rest =>
    match key.toList with
    | [c] =>
      if c.isDigit then
        if (Integer.digits 10 (digits ++ [c])).1 > greatestSize then
          .error ["tab stop value is too large"]
        else stopsOf tabs (digits ++ [c]) rest
      else if c = ',' ∧ digits ≠ [] then do
        stopsOf (← tabs.withWord (String.ofList digits)) [] rest
      else stopsOf tabs digits rest
    | _ =>
      if key = "tabs" then do stopsOf (← tabs.withWord value) digits rest
      else stopsOf tabs digits rest

/-- Replaces spaces by tabs. -/
def unexpand (words : List String) : Effect Nat :=
  called ([flag 'a' "all", valued 't' "tabs", long "first-only"] ++ flags ",0123456789") words
    fun call => TabStops.used (stopsOf {} [] call.options) fun tabs => do
      let whole := (call.has "all" || call.has "tabs") && !call.has "first-only"
      let (p, status) ← foldTexts call.inputs {} fun p text => do
        let p := text.foldl (Unexpanding.add tabs whole) p
        print p.output
        return { p with output := "" }
      print p.settled.output
      checkInput "-: Bad file descriptor" call.inputs
      return status

end Programs

end FileScript.Shell
