import FileScript.Shell.Programs.Basic

/-!
# Sorted texts side by side

Programs that go through two sorted texts at once and look for lines that both have, or for lines with
the same field. If a text is not sorted, lines that belong together may be missed; this is told as
soon as a line without a partner has been found.
-/

namespace FileScript.Shell

namespace Programs

open Effect

/-! ## What has been found -/

/-- When it is checked that lines are in order. -/
inductive OrderCheck where
  | never
  /-- Once a line has been found that has no partner. -/
  | unpaired
  | always
  deriving DecidableEq, Repr, Inhabited

/-- What comes to light on the way through two texts. -/
inductive Finding where
  | text (text : String)
  /-- A text is not sorted. -/
  | disorder (text : String)
  deriving DecidableEq, Repr, Inhabited

/-- What has come to light on the way through two texts. -/
structure Findings where
  found : Array Finding := #[]
  /-- The texts that are not sorted. -/
  disordered : List Nat := []
  /-- Whether a line has been found that has no partner. -/
  isUnpaired : Bool := false

namespace Findings

/-- Adds a text. -/
def put (f : Findings) (text : String) : Findings := { f with found := f.found.push (.text text) }

/-- Notes that a text is not sorted, if this is to be told and has not been told. -/
def checked (f : Findings) (check : OrderCheck) (file : Nat) (inOrder : Bool) (text : String) :
    Findings :=
  let isDue := match check with
    | .never => false
    | .unpaired => f.isUnpaired
    | .always => true
  if inOrder || !isDue || f.disordered.contains file then f
  else { f with found := f.found.push (.disorder text), disordered := file :: f.disordered }

/-- Prints what has been found. If order is asked for, the first line that is out of it ends the
program. -/
def tellAll (check : OrderCheck) : List Finding → Effect Bool
  | [] => return true
  | .text text :: rest => do
    print text
    tellAll check rest
  | .disorder text :: rest => do
    tell text
    if check = .always then return false
    tellAll check rest

/-- Prints what has been found, and `last` behind it. It is told at last if a text is not sorted. -/
def report (f : Findings) (check : OrderCheck) (last : String) : Effect Nat := do
  if !(← tellAll check f.found.toList) then return 1
  print last
  if f.disordered ≠ [] then return ← refuse "input is not in sorted order"
  return 0

end Findings

/-- The options on the order of lines. -/
def orderOptions : List Known := [long "check-order", long "nocheck-order"]

/-- When a call asks to check that lines are in order. -/
def orderCheckOf (call : Call) : OrderCheck :=
  match call.last? ["check-order", "nocheck-order"] with
  | some "check-order" => .always
  | some _ => .never
  | none => .unpaired

/-- Lets a program act on its two operands, or tells that there is another number of them. -/
def withPair (words : List String) (call : Call) (act : String → String → Effect Nat) :
    Effect Nat := do
  match call.operands with
  | [] => lacksOperand
  | [_] =>
    let last := words.getLastD ""
    misused s!"missing operand after {Quoting.value last}"
  | [a, b] => act a b
  | _ :: _ :: extra :: _ => hasExtra extra

/-- The parts of two texts that end with a character; or why there are none. -/
def readPair (ending : Char) (a b : String) :
    Effect (Except (String × Trouble) (List String × List String)) := do
  match ← readFile a with
  | .error trouble => return .error (a, trouble)
  | .ok first =>
    match ← readFile b with
    | .error trouble => return .error (b, trouble)
    | .ok second => return .ok (partsOf ending first, partsOf ending second)

/-! ## Common lines -/

namespace CommonLines

/-- How lines are shown. -/
structure Style where
  /-- Whether lines are shown that only the first text has, only the second one, and both. -/
  shown : List Bool
  separator : String := "\t"
  ending : Char := '\n'
  check : OrderCheck

/-- Whether lines of a kind are shown. -/
def Style.shows (s : Style) (kind : Nat) : Bool := s.shown.getD kind false

/-- A line of a kind, in the column for it. -/
def Style.line (s : Style) (kind : Nat) (line : String) : String :=
  let columns := (s.shown.take kind).count true
  if s.shows kind then
    (String.join (List.replicate columns s.separator) ++ line).push s.ending
  else ""

/-- The lines of a text that have not been passed, and the last one that has been. -/
structure Place where
  rest : List String
  last : Option String := none

/-- Passes a line of a text. Its order is checked with what comes next, or with what came before at
the end. -/
def pass (s : Style) (file : Nat) (p : Place) (f : Findings) : Place × Findings :=
  let pair := match p.rest with
    | line :: next :: _ => some (line, next)
    | [line] => p.last.map (·, line)
    | [] => none
  let inOrder := pair.all fun (a, b) => compare a b ≠ .gt
  let f := f.checked s.check file inOrder s!"file {file} is not in sorted order"
  ({ rest := p.rest.tail, last := p.rest.head? }, f)

/-- Goes through two texts; yields how many lines only the first one has, only the second one, and
both. -/
def merge (s : Style) : (fuel : Nat) → (a b : Place) → (totals : Nat × Nat × Nat) → Findings →
    (Nat × Nat × Nat) × Findings
  | 0, _, _, totals, f => (totals, f)
  | fuel + 1, a, b, (inA, inB, inBoth), f =>
    let order : Option Ordering := match a.rest, b.rest with
      | [], [] => none
      | _, [] => some .lt
      | [], _ => some .gt
      | x :: _, y :: _ => some (compare x y)
    match order with
    | none => ((inA, inB, inBoth), f)
    | some .lt =>
      let f := { f.put (s.line 0 (a.rest.headD "")) with isUnpaired := true }
      let (a, f) := pass s 1 a f
      merge s fuel a b (inA + 1, inB, inBoth) f
    | some .gt =>
      let f := { f.put (s.line 1 (b.rest.headD "")) with isUnpaired := true }
      let (b, f) := pass s 2 b f
      merge s fuel a b (inA, inB + 1, inBoth) f
    | some .eq =>
      let f := f.put (s.line 2 (b.rest.headD ""))
      let (a, f) := pass s 1 a f
      let (b, f) := pass s 2 b f
      merge s fuel a b (inA, inB, inBoth + 1) f

end CommonLines

/-- Shows which lines two texts have in common. -/
def comm (words : List String) : Effect Nat :=
  let known := flags "123" ++ orderOptions ++
    [long "output-delimiter" .value, long "total", flag 'z' "zero-terminated"]
  called known words fun call => do
    let separators := (call.values "output-delimiter").eraseDups
    if separators.length > 1 then return ← refuse "multiple output delimiters specified"
    withPair words call fun pathA pathB => do
      let ending := if call.has "zero-terminated" then '\x00' else '\n'
      let separator := match separators with
        | [] => "\t"
        | word :: _ => if word = "" then "\x00" else word
      let check := orderCheckOf call
      let shown := ["1", "2", "3"].map fun key => !call.has key
      match ← readPair ending pathA pathB with
      | .error (path, trouble) => refuse s!"{Quoting.ifNeeded path}: {trouble.reason}"
      | .ok (a, b) =>
        let s : CommonLines.Style := { shown, separator, ending, check }
        let fuel := a.length + b.length
        let ((inA, inB, inBoth), f) :=
          CommonLines.merge s fuel { rest := a } { rest := b } (0, 0, 0) {}
        let sums := separator.intercalate [toString inA, toString inB, toString inBoth, "total"]
        f.report check (if call.has "total" then sums.push ending else "")

/-! ## Joined lines -/

namespace Joining

/-- A field that is printed. -/
inductive Output where
  /-- The field that both lines have in common. -/
  | key
  | field (file index : Nat)
  deriving DecidableEq, Repr, Inhabited

/-- How lines are joined. -/
structure Style where
  /-- Where the common field stands in the lines of both texts, counted from 0 on. -/
  keys : Nat × Nat
  /-- What stands between fields, or nothing if blanks do. -/
  separator : Option Char := none
  ending : Char := '\n'
  folds : Bool := false
  /-- What is printed for an empty field. -/
  filler : String := ""
  outputs : List Output := []
  /-- How many fields are printed from the lines of both texts, if that is fixed. -/
  counts : Option (Nat × Nat) := none
  /-- Whether lines are printed that are paired, and those of each text that are not. -/
  pairs : Bool := true
  alone : List Nat := []
  check : OrderCheck
  paths : String × String

/-- A line with its fields. -/
structure Line where
  text : String
  fields : List String
  number : Nat
  deriving Inhabited

/-- Whether a character stands between fields. -/
def isBetween (c : Char) : Bool := c = ' ' || c = '\t' || c = '\n'

/-- The fields of a text between blanks. There is an empty one at the end behind blanks. -/
def blankFields : (fuel : Nat) → List Char → List String
  | 0, _ => []
  | fuel + 1, text =>
    let field := text.takeWhile fun c => !isBetween c
    match text.drop field.length with
    | [] => [String.ofList field]
    | rest => String.ofList field :: blankFields fuel (rest.dropWhile isBetween)

/-- The fields of a line. -/
def Style.fieldsOf (s : Style) (line : String) : List String :=
  match s.separator with
  | some '\n' => if line = "" then [] else [line]
  | some c => if line = "" then [] else line.splitOn c.toString
  | none =>
    let text := line.toList.dropWhile isBetween
    if text = [] then [] else blankFields (text.length + 1) text

/-- Lines with their fields and numbers. -/
def Style.linesOf (s : Style) (lines : List String) : List Line :=
  lines.zipIdx.map fun (text, i) => { text, fields := s.fieldsOf text, number := i + 1 }

/-- The common field of a line. -/
def Style.keyOf (s : Style) (file : Nat) (line : Line) : String :=
  line.fields.getD (if file = 1 then s.keys.1 else s.keys.2) ""

/-- Compares the common fields of two lines. -/
def Style.compareKeys (s : Style) (a b : String) : Ordering :=
  if s.folds then compare a.toUpper b.toUpper else compare a b

/-- A field as it is printed. -/
def Style.shownField (s : Style) (line : Option Line) (index : Nat) : String :=
  let field := ((line.map (·.fields)).getD []).getD index ""
  if field = "" then s.filler else field

/-- The common field and the other ones of two lines, one of which may be missing. -/
def Style.outputsFor (s : Style) (a b : Option Line) : List String :=
  let key := match a with
    | some _ => s.shownField a s.keys.1
    | none => s.shownField b s.keys.2
  if s.outputs ≠ [] then
    s.outputs.map fun
      | .key => key
      | .field file index => s.shownField (if file = 1 then a else b) index
  else
    let others (line : Option Line) (index : Nat) (count : Option Nat) : List String :=
      let known := ((line.map (·.fields)).getD []).length
      ((List.range (count.getD known)).filter (· ≠ index)).map (s.shownField line)
    key :: others a s.keys.1 (s.counts.map (·.1)) ++ others b s.keys.2 (s.counts.map (·.2))

/-- Two lines as one. -/
def Style.joined (s : Style) (a b : Option Line) : String :=
  let separator := (s.separator.getD ' ').toString
  (separator.intercalate (s.outputsFor a b)).push s.ending

/-- Checks that a line comes behind the one before it. -/
def Style.checkOrder (s : Style) (file : Nat) (last : Option Line) (line : Line)
    (f : Findings) : Findings :=
  let inOrder := last.all fun last => s.compareKeys (s.keyOf file last) (s.keyOf file line) ≠ .gt
  let path := if file = 1 then s.paths.1 else s.paths.2
  f.checked s.check file inOrder s!"{path}:{line.number}: is not sorted: {line.text}"

/-- Reads one more line, if there is one, and checks the order. `last` is the line before. -/
def Style.peek (s : Style) (file : Nat) (last : Option Line) (rest : List Line)
    (f : Findings) : Findings :=
  match rest with
  | line :: _ => s.checkOrder file last line f
  | [] => f

/-- Passes all lines whose common field fits, and checks the order of each line that is read on the
way. -/
def Style.passEqual (s : Style) (file : Nat) (key : String) : (last : Line) → List Line →
    Findings → List Line × List Line × Findings
  | last, [], f => ([last], [], f)
  | last, line :: rest, f =>
    let f := s.checkOrder file (some last) line f
    if s.compareKeys (s.keyOf file line) key = .eq then
      let (found, rest, f) := s.passEqual file key line rest f
      (last :: found, rest, f)
    else ([last], line :: rest, f)

/-- Passes the lines that are left when the other text is at its end. -/
def Style.passRest (s : Style) (file : Nat) : (last : Line) → List Line → Findings → Findings
  | _, [], f => f
  | last, line :: rest, f =>
    let f := s.checkOrder file (some last) line f
    let shown := s.alone.contains file
    let f := if !shown then f
      else f.put (if file = 1 then s.joined (some line) none else s.joined none (some line))
    if f.disordered.contains file ∧ !shown then f else s.passRest file line rest f

/-- Goes through two texts. -/
def Style.merge (s : Style) : (fuel : Nat) → (a b : List Line) → Findings → Findings
  | 0, _, _, f => f
  | _ + 1, [], [], f => f
  | _ + 1, x :: a, [], f =>
    let f := if s.alone.contains 1 then f.put (s.joined (some x) none) else f
    s.passRest 1 x a f
  | _ + 1, [], y :: b, f =>
    let f := if s.alone.contains 2 then f.put (s.joined none (some y)) else f
    s.passRest 2 y b f
  | fuel + 1, x :: a, y :: b, f =>
    match s.compareKeys (s.keyOf 1 x) (s.keyOf 2 y) with
    | .lt =>
      let f := if s.alone.contains 1 then f.put (s.joined (some x) none) else f
      let f := s.peek 1 (some x) a f
      s.merge fuel a (y :: b) { f with isUnpaired := true }
    | .gt =>
      let f := if s.alone.contains 2 then f.put (s.joined none (some y)) else f
      let f := s.peek 2 (some y) b f
      s.merge fuel (x :: a) b { f with isUnpaired := true }
    | .eq =>
      let (found, a, f) := s.passEqual 1 (s.keyOf 2 y) x a f
      let (others, b, f) := s.passEqual 2 (s.keyOf 1 x) y b f
      let texts := found.flatMap fun x => others.map fun y => s.joined (some x) (some y)
      s.merge fuel a b (if s.pairs then f.put (String.join texts) else f)

/-- Goes through two texts. Their first lines can be titles, which are joined in any case. -/
def Style.join (s : Style) (a b : List Line) (titled : Bool) : Findings :=
  let fuel := a.length + b.length + 1
  if titled ∧ !(a.isEmpty && b.isEmpty) then
    s.merge fuel a.tail b.tail (({} : Findings).put (s.joined a.head? b.head?))
  else s.merge fuel a b {}

/-! ## Words -/

/-- The number of a field, counted from 0 on. -/
def fieldOf (word : String) : Except String Nat :=
  match word.toNat? with
  | some (n + 1) => .ok n
  | _ => .error s!"invalid field number: {Quoting.value word}"

/-- The number of a text. -/
def fileOf (word : String) : Except String Nat :=
  match word.toNat? with
  | some 1 => .ok 1
  | some 2 => .ok 2
  | _ => .error s!"invalid field number: {Quoting.value word}"

/-- The field that a word asks to print. -/
def outputOf (word : String) : Except String Output :=
  match word.toList with
  | ['0'] => .ok .key
  | '1' :: '.' :: rest => (fieldOf (String.ofList rest)).map (.field 1)
  | '2' :: '.' :: rest => (fieldOf (String.ofList rest)).map (.field 2)
  | '0' :: _ | '1' :: _ | '2' :: _ => .error s!"invalid field specifier: {Quoting.value word}"
  | _ => .error s!"invalid file number in field spec: {Quoting.value word}"

/-- The fields that a word asks to print. -/
def outputsOf (word : String) : Except String (List Output) :=
  let parts := (word.toList.splitBy fun a b => !isList a && !isList b).filter fun part =>
    !part.any isList
  (if parts = [] then [[]] else parts).mapM fun part => outputOf (String.ofList part)
where
  /-- Whether a character stands between fields in a list. -/
  isList (c : Char) : Bool := c = ',' || c = ' ' || c = '\t'

/-- The character between fields that a word denotes. -/
def separatorOf (word : String) : Except String Char :=
  match word.toList with
  | [] => .ok '\n'
  | [c] => .ok c
  | ['\\', '0'] => .ok '\x00'
  | _ => .error s!"multi-character tab {Quoting.value word}"

/-- A style with what an option asks for. -/
def withOption (s : Style) (key word : String) : Except String Style := do
  match key with
  | "1" => return { s with keys := (← fieldOf word, s.keys.2) }
  | "2" => return { s with keys := (s.keys.1, ← fieldOf word) }
  | "j" =>
    let field ← fieldOf word
    return { s with keys := (field, field) }
  | "a" => return { s with alone := (← fileOf word) :: s.alone }
  | "v" => return { s with alone := (← fileOf word) :: s.alone, pairs := false }
  | "e" =>
    if s.filler ≠ "" ∧ s.filler ≠ word then throw "conflicting empty-field replacement strings"
    return { s with filler := word }
  | "o" =>
    if word = "auto" then return { s with counts := some (0, 0) }
    return { s with outputs := s.outputs ++ (← outputsOf word) }
  | "t" =>
    let c ← separatorOf word
    if s.separator.any (· ≠ c) then throw "incompatible tabs"
    return { s with separator := some c }
  | _ => return s

end Joining

/-- Joins the lines of two texts that have a field in common. -/
def join (words : List String) : Effect Nat :=
  let known := [valued '1', valued '2', valued 'j', valued 'a', valued 'v', valued 'e', valued 'o',
    valued 't', flag 'i' "ignore-case", long "header", flag 'z' "zero-terminated"] ++ orderOptions
  called known words fun call => do
    let ending := if call.has "zero-terminated" then '\x00' else '\n'
    let start : Joining.Style := {
      keys := (0, 0), ending, folds := call.has "ignore-case", check := orderCheckOf call
      paths := ("", "") }
    if let some extra := call.operands[2]? then
      return ← misused s!"extra operand {Quoting.always extra}"
    match call.options.foldlM (fun s (key, word) => Joining.withOption s key word) start with
    | .error text => refuse text
    | .ok s =>
      withPair words call fun pathA pathB => do
        if pathA = "-" ∧ pathB = "-" then
          return ← refuse "both files cannot be standard input: No such file or directory"
        match ← readPair ending pathA pathB with
        | .error (_, .reading reason) => refuse s!"read error: {reason}"
        | .error (path, .opening reason) => refuse s!"{Quoting.ifNeeded path}: {reason}"
        | .ok (a, b) =>
          let s := { s with paths := (pathA, pathB) }
          let a := s.linesOf a
          let b := s.linesOf b
          let first (lines : List Joining.Line) : Nat :=
            ((lines.head?.map (·.fields)).getD []).length
          let s := { s with counts := s.counts.map fun _ => (first a, first b) }
          (s.join a b (call.has "header")).report s.check ""

end Programs

end FileScript.Shell
