import FileScript.Shell.Editing.Syntax

/-!
# Carrying out scripts that edit lines

For every line, the commands of a script are carried out on a text that is first the line itself. At
the end, the text is printed. A second text is kept from line to line.
-/

namespace FileScript.Shell

namespace Editing

open Octets (Piece)

/-- A text, and whether its line has an end. -/
structure Line where
  text : List Piece := []
  ended : Bool := true
  deriving DecidableEq, Repr, Inhabited

/-- A file with lines; or what is said if it cannot be read, and the status for that. -/
structure Source where
  name : String
  lines : Except (String × Nat) (List Line)
  deriving Inhabited

/-- What is outside a script: how it is carried out, and the files that it reads. -/
structure Setting where
  script : Script
  /-- Whether texts are printed only where the script says so. -/
  silent : Bool := false
  /-- Whether each file counts by itself. -/
  separate : Bool := false
  /-- Whether what is printed goes into the files themselves. -/
  inPlace : Bool := false
  /-- The end of a line. -/
  ending : Char := '\n'
  /-- How long shown lines are. -/
  width : Nat := 70
  /-- What other files hold. -/
  texts : List (String × String) := []
  /-- What is said first about a mistake in the script that shows up late. -/
  place : String := ""

/-- Something that a script does to the world. -/
inductive Event where
  | print (text : String)
  | write (path text : String)
  | complain (text : String)
  /-- All lines of a file have been edited. -/
  | finish (path : String)
  deriving Repr, Inhabited

/-- Something to be printed behind a text. -/
inductive Addition where
  | text (s : String)
  | file (path : String)
  deriving Repr, Inhabited

/-- Where the lines of a command are, that are given by their first and last one. -/
inductive Range where
  /-- Within them, up to a line with a number. -/
  | upTo (last : Nat)
  /-- Within them, up to a line that fits. -/
  | open
  /-- Behind them. -/
  | closed
  deriving DecidableEq, Repr, Inhabited

/-- A script on its way through the lines. -/
structure Machine where
  current : Line := {}
  held : Line := {}
  number : Nat := 0
  /-- The file of the current line, and its other lines. -/
  file : String := "-"
  lines : List Line := []
  /-- Whether there is a current file. -/
  isOpen : Bool := false
  later : List Source
  additions : List Addition := []
  /-- Whether something has been replaced since a line was read or a jump asked for it. -/
  replaced : Bool := false
  ranges : List (Nat × Range) := []
  previous : Option (LinePattern.Expression × LinePattern.Search) := none
  /-- The lines of other files that have not been read. -/
  unread : List (String × List String) := []
  /-- The places where the end of a line is missing. Nothing stands for the output. -/
  unended : List (Option String) := []
  events : List Event := []
  status : Nat := 0
  /-- How many lines of the current file have been read. -/
  taken : Nat := 0

/-- Steps of a script. They end everything with a status. -/
abbrev Run := ReaderT Setting (EStateM Nat Machine)

/-! ## Output -/

/-- Notes an event. -/
def note (event : Event) : Run Unit := modify fun m => { m with events := event :: m.events }

/-- Writes to a place: to a file or to the output. -/
def write (place : Option String) (text : String) : Run Unit :=
  match place with
  | none => note (.print text)
  | some path => note (.write path text)

/-- Ends the last line at a place if its end is missing. -/
def endLine (place : Option String) : Run Unit := do
  if place ∈ (← get).unended then
    modify fun m => { m with unended := m.unended.filter (· ≠ place) }
    write place (← read).ending.toString

/-- Writes a text to a place. -/
def put (text : String) (place : Option String := none) : Run Unit := do
  endLine place
  write place text

/-- Writes a line to a place. -/
def putLine (text : List Piece) (ended : Bool) (place : Option String := none) : Run Unit := do
  let ending := (← read).ending.toString
  put (LinePattern.textOf text ++ if ended then ending else "") place
  if !ended then modify fun m => { m with unended := place :: m.unended }

/-- Ends everything because of a mistake. -/
def refuse {α : Type} (text : String) (status : Nat) : Run α := do
  note (.complain text)
  throw status

/-- Prints what was to be printed behind a text. -/
def putAdditions : Run Unit := do
  let additions := (← get).additions
  modify ({ · with additions := [] })
  for addition in additions do
    match addition with
    | .text s => put s
    | .file path => put (((← read).texts.lookup path).getD "")

/-! ## Input -/

/-- The ranges that begin before the first line. -/
def firstRanges (script : Script) : List (Nat × Range) :=
  script.toList.zipIdx.filterMap fun (c, i) =>
    match c.address with
    | some (.line 0, some _) => some (i, .open)
    | _ => none

/-- Goes on to the next file with lines; there may be none. -/
def nextFile : List Source → Run Bool
  | [] => do
    modify ({ · with later := [], isOpen := false })
    return false
  | source :: later => do
    match source.lines with
    | .error (text, status) =>
      note (.complain text)
      if status = 4 ∧ !(← read).inPlace then throw 4
      modify fun m => { m with status := max m.status status }
      nextFile later
    | .ok lines =>
      let setting ← read
      if setting.separate then
        if setting.inPlace then modify ({ · with unended := [] }) else endLine none
        modify ({ · with number := 0, ranges := firstRanges setting.script })
      modify ({ · with file := source.name, lines, later, taken := 0, isOpen := true })
      if lines = [] then
        if setting.inPlace then note (.finish source.name)
        nextFile later
      else return true

/-- Leaves the current file. -/
def leaveFile : Run Unit := do
  if (← get).isOpen && (← read).inPlace then note (.finish (← get).file)
  modify ({ · with isOpen := false })

/-- Takes the next line, if there is one. Before, what was to be printed is printed. -/
def nextLine? : Run (Option Line) := do
  putAdditions
  if (← get).lines = [] then
    leaveFile
    discard (nextFile (← get).later)
  let m ← get
  match m.lines with
  | [] => return none
  | line :: lines =>
    set { m with lines, number := m.number + 1, taken := m.taken + 1, replaced := false }
    return some line

/-- Whether the current line is the last one. -/
def isLast : Run Bool := do
  let m ← get
  let hasNone (s : Source) : Bool := match s.lines with
    | .ok lines => lines.isEmpty
    | .error _ => true
  return m.lines.isEmpty && ((← read).separate || m.later.all hasNone)

/-! ## Addresses -/

/-- The pattern that is looked for, which is the one that was looked for last if none is given. -/
def pattern (s : Sought) : Run (LinePattern.Expression × LinePattern.Search) := do
  match s with
  | .pattern e search =>
    modify ({ · with previous := some (e, search) })
    return (e, search)
  | .previous =>
    match (← get).previous with
    | some found => return found
    | none => refuse ((← read).place ++ "no previous regular expression") 1

/-- Whether something fits in the current text. -/
def fits (s : Sought) : Run Bool := do
  let (e, search) ← pattern s
  return e.occursIn search (← get).current.text

/-- Whether an address names the current line. -/
def Address.holds (a : Address) : Run Bool := do
  match a with
  | .line n => return (← get).number = n
  | .every first step =>
    let n := (← get).number
    return first ≤ n && (n - first) % step = 0
  | .last => isLast
  | .fitting s => fits s

/-- Notes where the lines of a command are. -/
def setRange (place : Nat) (range : Option Range) : Run Unit := modify fun m =>
  { m with ranges := (range.map fun r => (place, r)).toList ++ m.ranges.filter (·.1 ≠ place) }

/-- Whether the lines of a command begin with the current one or, if a number is given, have begun
before. -/
def begins (place : Nat) (first : Address) (stop : Reach) : Run Bool := do
  let m ← get
  let isClosed := m.ranges.lookup place = some .closed
  let n := m.number
  let isFirst ← match first with
    | .line least => pure (!isClosed && least ≤ n)
    | _ => first.holds
  if !isFirst then return false
  let isNumber := match first with
    | .line _ => true
    | _ => false
  let single : Run Bool := do
    setRange place (if isNumber then some .closed else none)
    return true
  let upTo (l : Nat) : Run Bool := do
    if n < l then
      setRange place (some (.upTo l))
      return true
    else single
  match stop with
  | .line l =>
    let found ← upTo l
    let isFar := match first with
      | .line least => least ≠ n && l < n
      | _ => false
    return found && !isFar
  | .more count => upTo (n + count)
  | .multiple factor => upTo (if factor = 0 then n else (n / factor + 1) * factor)
  | .last | .fitting _ =>
    setRange place (some .open)
    return true

/-- Whether the addresses of the command at a place name the current line. -/
def named (place : Nat) : Option (Address × Option Reach) → Run Bool
  | none => return true
  | some (a, none) => a.holds
  | some (first, some stop) => do
    let m ← get
    match m.ranges.lookup place with
    | some (.upTo l) =>
      if l ≤ m.number then setRange place (some .closed)
      if m.number ≤ l then return true
      match first with
      | .line _ => return false
      | _ => begins place first stop
    | some .open =>
      let isOver ← match stop with
        | .last => isLast
        | .fitting s => fits s
        | _ => pure true
      if isOver then setRange place (some .closed)
      return true
    | _ => begins place first stop

/-! ## Substitutions -/

/-- A character with its letter changed. -/
def Case.apply (c : Case) (p : Piece) : Piece :=
  match p with
  | .byte _ => p
  | .char l =>
    match c with
    | same => p
    | upper => if LinePattern.Kind.lower.covers l then .char (LinePattern.otherCase l) else p
    | lower => if LinePattern.Kind.upper.covers l then .char (LinePattern.otherCase l) else p

/-- Characters with their letters changed. -/
def changed (letters first : Case) : List Piece → List Piece
  | [] => []
  | p :: rest => (if first = .same then letters else first).apply p :: rest.map letters.apply

/-- What replaces a match. `first` is a change of the first letter that is still to be made. -/
def filled (found : LinePattern.Match) : (first : Case) → List Part → List Piece
  | _, [] => []
  | first, part :: others =>
    let own := if part.first = .same then first else part.first
    let text := changed part.letters own part.text
    let left := if part.text = [] then own else .same
    match part.group.map found.group with
    | none => text ++ filled found .same others
    | some [] =>
      let kept := if part.first = .same then .same else left
      text ++ filled found kept others
    | some taken => text ++ changed part.letters left taken ++ filled found .same others

/-- The text of a line in which matches have been replaced. `place` is the place up to which the
line has been copied. -/
def replacedIn (s : Substitution) : (count : Nat) → LinePattern.Spot → List LinePattern.Match →
    List Piece
  | _, place, [] => place.rest
  | count, place, found :: others =>
    let before := place.upTo found.start
    if count < s.first ∨ s.first < count ∧ !s.everywhere then
      before ++ found.text ++ replacedIn s (count + 1) found.stop others
    else before ++ filled found .same s.parts ++ replacedIn s (count + 1) found.stop others

/-- Replaces what fits in the current text. -/
def substitute (s : Substitution) : Run Unit := do
  let (e, search) ← pattern s.sought
  let line := (← get).current
  let search := { search with byLines := search.byLines && (← read).ending = '\n' }
  let found := e.matchesIn search line.text
  if found.length < s.first then return
  let text := replacedIn s 1 (.ofText line.text) found
  modify fun m => { m with current := { line with text }, replaced := true }
  if s.prints then putLine text line.ended
  if let some path := s.file then putLine text line.ended (some path)

/-! ## Commands -/

/-- How things go on behind a command. -/
inductive Course where
  | onward
  | jump (place : Nat)
  /-- Ends the work on the line. -/
  | over (prints : Bool)
  /-- Begins again without a new line. -/
  | again

/-- The bytes of a text as they are shown. -/
def shownByte (c : Char) : String :=
  match c with
  | '\\' => "\\\\"
  | '\x07' => "\\a"
  | '\x08' => "\\b"
  | '\x0c' => "\\f"
  | '\n' => "\\n"
  | '\r' => "\\r"
  | '\t' => "\\t"
  | '\x0b' => "\\v"
  | _ => if ' ' ≤ c ∧ c ≤ '~' then c.toString else "\\" ++ Octets.padded 3 c.toNat 8

/-- Parts of a text in lines that are not too long, with marks where lines are broken. -/
def broken (width : Nat) : (column : Nat) → List String → String
  | _, [] => ""
  | column, part :: others =>
    if 0 < width ∧ width - 1 < column + part.length then
      "\\\n" ++ part ++ broken width part.length others
    else part ++ broken width (column + part.length) others

/-- The characters of a text up to the end of its first line, and those behind it, if there are
lines in it. -/
def firstLine (ending : Char) (text : List Piece) : List Piece × Option (List Piece) :=
  let first := text.takeWhile (· ≠ .char ending)
  (first, (text.drop first.length).tail?)

/-- The place to which a jump goes. -/
def placeOf (script : Script) (label : Option String) : Nat :=
  ((label.bind script.placeOf?)).getD script.size

/-- Puts a line behind another one. -/
def joined (ending : Char) (a b : Line) : Line :=
  { text := a.text ++ .char ending :: b.text, ended := b.ended }

/-- Carries out an action. `isWithin` says whether more lines follow for which the command is
meant. -/
def act (isWithin : Bool) (a : Action) : Run Course := do
  let setting ← read
  let m ← get
  let line := m.current
  match a with
  | .open _ | .close | .mark _ => return .onward
  | .jump label => return .jump (placeOf setting.script label)
  | .jumpIf label =>
    if !m.replaced then return .onward
    modify ({ · with replaced := false })
    return .jump (placeOf setting.script label)
  | .jumpUnless label =>
    if !m.replaced then return .jump (placeOf setting.script label)
    modify ({ · with replaced := false })
    return .onward
  | .append text =>
    set { m with additions := m.additions ++ [Addition.text text] }
    return .onward
  | .insert text =>
    if text ≠ "" then put (String.ofList (text.toList.dropLast) ++ setting.ending.toString)
    return .onward
  | .change text =>
    if !isWithin then put text
    return .over false
  | .delete => return .over false
  | .deleteFirst =>
    match firstLine setting.ending line.text with
    | (_, none) => return .over false
    | (_, some rest) =>
      set { m with current := { line with text := rest } }
      return .again
  | .print =>
    putLine line.text line.ended
    return .onward
  | .printFirst =>
    let (first, rest) := firstLine setting.ending line.text
    putLine first (rest.isSome || line.ended)
    return .onward
  | .next =>
    if ← isLast then return .over true
    if !setting.silent then putLine line.text line.ended
    match ← nextLine? with
    | some next =>
      modify ({ · with current := next })
      return .onward
    | none => return .over false
  | .appendNext =>
    if ← isLast then return .over true
    match ← nextLine? with
    | some next =>
      modify ({ · with current := joined setting.ending line next })
      return .onward
    | none => return .over true
  | .get =>
    set { m with current := m.held }
    return .onward
  | .appendHeld =>
    set { m with current := joined setting.ending line m.held }
    return .onward
  | .hold =>
    set { m with held := line }
    return .onward
  | .appendToHeld =>
    set { m with held := joined setting.ending m.held line }
    return .onward
  | .exchange =>
    set { m with held := line, current := m.held }
    return .onward
  | .empty =>
    set { m with current := { line with text := [] } }
    return .onward
  | .number =>
    put ((toString m.number).push setting.ending)
    return .onward
  | .name =>
    put (m.file.push setting.ending)
    return .onward
  | .list width =>
    let parts := (LinePattern.textOf line.text).toList.map shownByte
    put (broken (width.getD setting.width) 0 parts ++ "$" ++ setting.ending.toString)
    return .onward
  | .quit status isSilent =>
    if !isSilent then
      if !setting.silent then putLine line.text line.ended
      putAdditions
      endLine none
    throw status
  | .readFile path =>
    set { m with additions := m.additions ++ [Addition.file path] }
    return .onward
  | .readLine path =>
    match (m.unread.lookup path).getD [] with
    | [] => return .onward
    | text :: others =>
      let unread := (path, others) :: m.unread.filter (·.1 ≠ path)
      set { m with unread, additions := m.additions ++ [Addition.text text] }
      return .onward
  | .writeLine path =>
    putLine line.text line.ended (some path)
    return .onward
  | .writeFirst path =>
    let (first, rest) := firstLine setting.ending line.text
    putLine first (rest.isSome || line.ended) (some path)
    return .onward
  | .substitute s =>
    substitute s
    return .onward
  | .exchangeLetters pairs =>
    let text := line.text.map fun p => (pairs.lookup p).getD p
    set { m with current := { line with text } }
    return .onward

/-- The place behind a command that is not meant for the current line. -/
def placeBehind (place : Nat) : Action → Nat
  | .open stop => stop
  | _ => place + 1

/-- Carries out the script from a place on, and then from its beginning for the other lines. -/
def run : (fuel : Nat) → (place : Nat) → Run Unit
  | 0, _ => return
  | fuel + 1, place => do
    let setting ← read
    let course ← match setting.script[place]? with
      | none => pure (.over true)
      | some command =>
        if (← named place command.address) = command.negated then
          pure (.jump (placeBehind place command.action))
        else
          let isWithin := match (← get).ranges.lookup place with
            | some (.upTo _) | some .open => true
            | _ => false
          act isWithin command.action
    match course with
    | .onward => run fuel (place + 1)
    | .jump place => run fuel place
    | .again =>
      putAdditions
      run fuel 0
    | .over prints =>
      let m ← get
      if prints && !setting.silent then putLine m.current.text m.current.ended
      match ← nextLine? with
      | none => return
      | some line =>
        modify ({ · with current := line })
        run fuel 0

/-- The number of commands that are carried out at most. -/
def stepLimit : Nat := 10000000

/-- Carries out the script for all lines. -/
def runAll : Run Unit := do
  let setting ← read
  modify ({ · with ranges := firstRanges setting.script })
  match ← nextLine? with
  | none => return
  | some line =>
    modify ({ · with current := line })
    run stepLimit 0

/-- What a script has done in the end. -/
structure Result where
  events : List Event
  status : Nat
  /-- How many lines of the standard input have been read, if not all of them. -/
  left : Option Nat

/-- What a script does with the lines of files. -/
def result (setting : Setting) (sources : List Source) : Result :=
  let unread := setting.texts.map fun (path, text) => (path, linesWithEnds text)
  let (ended, m) := match (runAll setting).run { later := sources, unread } with
    | .ok () m => (none, m)
    | .error status m => (some status, m)
  let finish := if m.isOpen && setting.inPlace then [Event.finish m.file] else []
  let status := match ended with
    | some status => if status = 1 ∨ status = 4 then status else max m.status status
    | none => m.status
  { events := m.events.reverse ++ finish
    status := if m.status ≠ 0 ∧ status ≠ 4 then m.status else status
    left :=
      if m.file = "-" ∧ m.isOpen ∧ m.lines ≠ [] then some m.taken
      else if m.later.any (·.name = "-") then some 0
      else none }
where
  /-- The lines of a text with their ends. -/
  linesWithEnds (text : String) : List String :=
    let parts := text.splitOn "\n"
    parts.dropLast.map (·.push '\n') ++ if parts.getLastD "" = "" then [] else [parts.getLastD ""]

end Editing

end FileScript.Shell
