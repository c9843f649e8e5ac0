import FileScript.Shell.Programs.Basic

/-!
# Fields of lines

Programs that take bytes or fields out of lines, and that put lines together so that they become the
fields of longer ones.
-/

namespace FileScript.Shell

namespace Programs

open Effect

/-! ## Lists of positions -/

/-- A range of positions, counted from one on. It may have no end. -/
structure PositionRange where
  first : Nat
  last : Option Nat
  deriving DecidableEq, Repr, Inhabited

/-- Whether a range covers a position. -/
def PositionRange.covers (r : PositionRange) (n : Nat) : Bool :=
  r.first ≤ n && r.last.all (n ≤ ·)

/-- A range that is being read. -/
structure RangeReader where
  /-- The digits before a dash. -/
  before : List Char := []
  /-- The digits behind a dash, if there is one. -/
  behind : Option (List Char) := none
  deriving Repr, Inhabited

namespace RangeReader

/-- What is said about positions. -/
def wording (fields : Bool) (ofFields ofBytes : String) : String :=
  if fields then ofFields else ofBytes

/-- The number that digits denote, or what is wrong with it. -/
def number (fields : Bool) (digits : List Char) : Except String Nat :=
  let n := (Integer.digits 10 digits).1
  if n + 1 < UInt64.size then .ok n
  else
    let what := wording fields "field number" "byte/character offset"
    .error s!"{what} {Quoting.value (String.ofList digits)} is too large"

/-- What is said of the position zero. -/
def zeroText (fields : Bool) : String :=
  wording fields "fields" "byte/character positions" ++ " are numbered from 1"

/-- The range that has been read. -/
def finish (fields : Bool) (r : RangeReader) : Except String PositionRange := do
  let first ← number fields r.before
  match r.behind with
  | none => if first = 0 then throw (zeroText fields) else return { first, last := some first }
  | some digits =>
    if r.before = [] ∧ digits = [] then throw "invalid range with no endpoint: -"
    let first := if r.before = [] then 1 else first
    if digits = [] then return { first, last := none }
    let last ← number fields digits
    if last < first then throw "invalid decreasing range"
    return { first, last := some last }

/-- The ranges in a text. -/
def ranges (fields : Bool) (r : RangeReader) : List Char → Except String (List PositionRange)
  | [] => do return [← r.finish fields]
  | c :: rest =>
    if c = '-' then
      match r.behind with
      | some _ =>
        let what := wording fields "field" "byte or character"
        .error s!"invalid {what} range"
      | none => do
        if r.before ≠ [] ∧ (← number fields r.before) = 0 then throw (zeroText fields)
        ranges fields { r with behind := some [] } rest
    else if c ∈ [',', ' ', '\t'] then do
      let found ← r.finish fields
      return found :: (← ranges fields {} rest)
    else if c.isDigit then
      match r.behind with
      | some digits => ranges fields { r with behind := some (digits ++ [c]) } rest
      | none => ranges fields { r with before := r.before ++ [c] } rest
    else
      let what := wording fields "field value" "byte/character position"
      .error s!"invalid {what} {Quoting.value (String.ofList (c :: rest))}"

end RangeReader

/-- Ranges in order, where those that overlap become one. -/
def joinRanges : List PositionRange → List PositionRange
  | a :: b :: rest =>
    if a.last.all (b.first ≤ ·) then
      let last := a.last.bind fun m => b.last.map (max m)
      joinRanges ({ first := a.first, last } :: rest)
    else a :: joinRanges (b :: rest)
  | ranges => ranges
termination_by ranges => ranges.length

/-- The positions that are in none of some ranges. -/
def betweenRanges (start : Nat) : List PositionRange → List PositionRange
  | [] => [{ first := start, last := none }]
  | r :: rest =>
    let gap := if start < r.first then [{ first := start, last := some (r.first - 1) }] else []
    match r.last with
    | none => gap
    | some last => gap ++ betweenRanges (last + 1) rest

/-! ## Taking lines apart -/

/-- What of a line is shown. -/
structure Selection where
  ranges : List PositionRange
  /-- The character between fields; there is none where bytes are selected. -/
  delimiter : Option Char := none
  /-- What is put between the parts that are shown, if it is given. -/
  joint : Option String := none
  /-- Whether lines without a delimiter are left out. -/
  onlyDelimited : Bool := false
  deriving Repr, Inhabited

namespace Selection

/-- Some items, those of a range together. -/
def groups {α : Type} (s : Selection) (items : List α) : List (List α) :=
  let numbered := items.zipIdx 1
  (s.ranges.map fun r => (numbered.filter fun (_, n) => r.covers n).map (·.1)).filter (!·.isEmpty)

/-- What is shown of a line, if it is shown. -/
def shown? (s : Selection) (line : String) : Option String :=
  match s.delimiter with
  | none =>
    some ((s.joint.getD "").intercalate ((s.groups line.toList).map String.ofList))
  | some d =>
    let fields := line.splitOn d.toString
    if fields.length = 1 then if s.onlyDelimited then none else some line
    else some ((s.joint.getD d.toString).intercalate (s.groups fields).flatten)

/-- The selection that a call asks for, or what is wrong with it. -/
def ofCall (call : Call) : Except String Selection := do
  let lists := call.options.filter fun (key, _) => key ∈ ["bytes", "characters", "fields"]
  if lists.length > 1 then throw "only one list may be specified"
  if (call.values "delimiter").any (·.length > 1) then
    throw "the delimiter must be a single character"
  let some (key, text) := lists.head?
    | throw "you must specify a list of bytes, characters, or fields"
  let fields := key = "fields"
  if !fields && call.has "delimiter" then
    throw "an input delimiter may be specified only when operating on fields"
  if !fields && call.has "only-delimited" then
    throw "suppressing non-delimited lines makes sense\n\tonly when operating on fields"
  let found ← RangeReader.ranges fields {} text.toList
  let ranges := joinRanges (found.mergeSort fun a b => a.first ≤ b.first)
  let delimiter := ((call.value? "delimiter").map fun d => d.toList.headD '\x00').getD '\t'
  return {
    ranges := if call.has "complement" then betweenRanges 1 ranges else ranges
    delimiter := if fields then some delimiter else none
    joint := call.value? "output-delimiter", onlyDelimited := call.has "only-delimited" }

end Selection

/-- The options of `cut`. -/
def cutOptions : List Known :=
  [valued 'b' "bytes", valued 'c' "characters", valued 'f' "fields", valued 'd' "delimiter",
    flag 'n', flag 's' "only-delimited", flag 'z' "zero-terminated",
    long "output-delimiter" .value, long "complement"]

/-- Prints parts of the lines of texts. -/
def cut (words : List String) : Effect Nat :=
  called cutOptions words fun call => do
    match Selection.ofCall call with
    | .error text => misused text
    | .ok s =>
      let ending := if call.has "zero-terminated" then '\x00' else '\n'
      forTexts call.inputs fun _ text =>
        print (endedBy ending ((partsOf ending text).filterMap s.shown?))

/-! ## Putting lines together -/

/-- The delimiters in a text, where backslashes mark special ones; an empty one puts nothing between
fields. There are none if a backslash stands at the end. -/
def delimitersOf? : List Char → Option (List String)
  | [] => some []
  | ['\\'] => none
  | '\\' :: c :: rest =>
    let known := [('0', ""), ('b', "\x08"), ('f', "\x0c"), ('n', "\n"), ('r', "\r"), ('t', "\t"),
      ('v', "\x0b")]
    (delimitersOf? rest).map (((known.lookup c).getD c.toString) :: ·)
  | c :: rest => (delimitersOf? rest).map (c.toString :: ·)

/-- Fields with delimiters between them, which are used in turn. -/
def joinedBy (delimiters : List String) (fields : List String) : String :=
  let parts := fields.zipIdx.map fun (field, i) =>
    if i = 0 then field else (delimiters[(i - 1) % delimiters.length]?).getD "" ++ field
  String.join parts

/-- Takes a line from the text of a number, if there is one. -/
def takeLine (texts : List (List String)) (i : Nat) : Option String × List (List String) :=
  match texts[i]? with
  | some (line :: rest) => (some line, texts.set i rest)
  | _ => (none, texts)

/-- The rows of fields that lines of several texts make up. `order` says from which text the fields
are taken. -/
def rowsOf (order : List Nat) : Nat → List (List String) → List (List String)
  | 0, _ => []
  | fuel + 1, texts =>
    let (row, left) := order.foldl (fun (row, texts) i =>
      let (line, texts) := takeLine texts i
      (row ++ [line], texts)) (([] : List (Option String)), texts)
    if row.all Option.isNone then []
    else row.map (·.getD "") :: rowsOf order fuel left

/-- Prints lines of several texts side by side, or the lines of each text in one. -/
def paste (words : List String) : Effect Nat :=
  called [valued 'd' "delimiters", flag 's' "serial", flag 'z' "zero-terminated"] words
    fun call => do
      let text := (call.value? "delimiters").getD "\t"
      let some delimiters := delimitersOf? text.toList
        | refuse s!"delimiter list ends with an unescaped backslash: {text}"
      let delimiters := if delimiters = [] then [""] else delimiters
      let ending := if call.has "zero-terminated" then '\x00' else '\n'
      if call.has "serial" then
        let statuses ← call.inputs.mapM fun path => do
          match ← readFile path with
          | .ok text =>
            print (joinedBy delimiters (partsOf ending text) ++ ending.toString)
            return 0
          | .error trouble =>
            if let .reading _ := trouble then print ending.toString
            refuse s!"{Quoting.ifNeeded path}: {trouble.reason}"
        return worst statuses
      else
        let (found, failed) ← readFiles call.inputs.eraseDups
        let text (path : String) : String := ((found.lookup path).bind Except.toOption).getD ""
        if let some (path, trouble) := failed then
          tell s!"{Quoting.ifNeeded path}: {trouble.reason}"
          if trouble.isOpening then return 1
        let order := call.inputs.zipIdx.map fun (path, i) =>
          if path = "-" then (call.inputs.idxOf? "-").getD i else i
        let texts := call.inputs.map fun path => partsOf ending (text path)
        let rows := rowsOf order (total (texts.map List.length) + 1) texts
        print (endedBy ending (rows.map (joinedBy delimiters)))
        return if failed.isNone then 0 else 1

end Programs

end FileScript.Shell
