import FileScript.Shell.LinePattern.Matching
import FileScript.Shell.LinePattern.Reader
import FileScript.Shell.Programs.Size

/-!
# Whole texts

Programs that print texts as a whole: one after the other, to several places, with their lines
numbered or in the opposite order.
-/

namespace FileScript.Shell

namespace Programs

open Effect
open Octets (Piece)

/-! ## Copies -/

/-- A byte in a form that shows what it is. -/
def visible (b : Char) : String :=
  let (lead, n) := if b.toNat < 128 then ("", b.toNat) else ("M-", b.toNat - 128)
  if n = 127 then lead ++ "^?"
  else if n < 32 then lead ++ "^" ++ (Char.ofNat (n + 64)).toString
  else lead ++ (Char.ofNat n).toString

/-- What `cat` adds to the lines that it prints. -/
structure Adornment where
  /-- Whether lines are numbered. -/
  numbered : Bool := false
  /-- Whether lines that are not empty are numbered. -/
  numbersText : Bool := false
  /-- Whether empty lines that follow each other become one. -/
  squeezed : Bool := false
  ends : Bool := false
  tabs : Bool := false
  others : Bool := false
  deriving DecidableEq, Repr, Inhabited

namespace Adornment

/-- What the options of `cat` ask for. -/
def ofCall (call : Call) : Adornment :=
  let any (keys : List String) : Bool := keys.any call.has
  { numbered := call.has "number" && !call.has "number-nonblank"
    numbersText := call.has "number-nonblank"
    squeezed := call.has "squeeze-blank"
    ends := any ["show-ends", "show-all", "e"]
    tabs := any ["show-tabs", "show-all", "t"]
    others := any ["show-nonprinting", "show-all", "e", "t"] }

/-- The characters of a line in their visible form. -/
def apply (a : Adornment) (line : String) : String :=
  let byte (c : Char) : String :=
    if c = '\n' then if a.ends then "$\n" else "\n"
    else if c = '\t' then if a.tabs then "^I" else "\t"
    else if a.others then visible c
    else c.toString
  let line := if a.ends && !a.others then line.replace "\r\n" "^M\n" else line
  String.join (line.toList.map byte)

end Adornment

/-- What `cat` remembers from one line to the next. -/
structure LineCount where
  number : Nat := 0
  /-- Whether the last line has no end yet. -/
  unfinished : Bool := false
  /-- Whether the last line was empty. -/
  blank : Bool := false
  deriving DecidableEq, Repr, Inhabited

/-- Adds a line to what is printed. -/
def Adornment.add (a : Adornment) : LineCount × String → String → LineCount × String :=
  fun (count, done) line =>
    let isBlank := line = "\n" && !count.unfinished
    let unfinished := !line.endsWith "\n"
    if isBlank && count.blank && a.squeezed then (count, done)
    else
      let isNumbered := !count.unfinished && (a.numbered || (a.numbersText && !isBlank))
      let number := if isNumbered then count.number + 1 else count.number
      let lead := if isNumbered then aligned 6 number ++ "\t" else ""
      ({ number, unfinished, blank := isBlank }, done ++ lead ++ a.apply line)

/-- The place of the file to which the standard output leads. -/
def outputPlace? : Effect (Option Place) := do
  match ← streamAt? 1 with
  | some (_, { channel := .file place .., .. }) => return some place
  | _ => return none

/-- Whether a path leads to the file that the standard output is written to, and there is something
in it. -/
def isOutput (path : String) : Effect Bool := do
  match ← outputPlace? with
  | none => return false
  | some output =>
    if path = "-" then
      match ← streamAt? 0 with
      | some (_, { channel := .file place .., .. }) =>
        return place = output && ((← unread 0).toOption.any fun bytes => bytes.size ≠ 0)
      | _ => return false
    match ← find path with
    | .ok (place, .file bytes) =>
      return (← shared).host.folder.keptAt place = output && bytes.size ≠ 0
    | _ => return false

/-- The options of `cat`. -/
def catOptions : List Known :=
  [flag 'A' "show-all", flag 'b' "number-nonblank", flag 'e', flag 'E' "show-ends",
    flag 'n' "number", flag 's' "squeeze-blank", flag 't', flag 'T' "show-tabs", flag 'u',
    flag 'v' "show-nonprinting"]

/-- Prints one text after the other. -/
def catAll (a : Adornment) : LineCount → List String → Effect Nat
  | _, [] => return 0
  | count, path :: rest => do
    let failed (text : String) : Effect Nat := do
      tell s!"{Quoting.ifNeeded path}: {text}"
      return max 1 (← catAll a count rest)
    if ← isOutput path then return ← failed "input file is output file"
    match ← readFile path with
    | .error trouble => failed trouble.reason
    | .ok text =>
      if a = {} then
        print text
        catAll a count rest
      else
        let (count, shown) := (wholeLines text).foldl a.add (count, "")
        print shown
        catAll a count rest

/-- Prints texts one after the other. -/
def cat (words : List String) : Effect Nat :=
  called catOptions words fun call => do
    if (← streamAt? 1).isNone then return ← refuse "standard output: Bad file descriptor"
    let status ← catAll (.ofCall call) {} call.inputs
    checkInput "closing standard input: Bad file descriptor" call.inputs
    return status

/-- Writes a text to the file at a path; tells why it cannot. -/
def writeFile (path text : String) (appends : Bool) : Effect (Option String) := do
  let written (old : ByteArray) (place : Place) : Effect (Option String) := do
    putItem place (.file (old ++ Octets.toBytes text))
    return none
  match Redirect.deviceDescriptor? path, ← find path with
  | some descriptor, _ => writeTo descriptor text
  | none, .ok (place, .file old) => written (if appends then old else .empty) place
  | none, .ok (_, .directory) => return some FolderError.isADirectory.text
  | none, .ok _ => return none
  | none, .error .notFound =>
    if path.endsWith "/" ∧ path ≠ "" then return some FolderError.isADirectory.text
    match ← findNew path with
    | .ok place => written .empty place
    | .error e => return some e.text
  | none, .error e => return some e.text

/-- Prints the standard input and writes it to files too. -/
def tee (words : List String) : Effect Nat :=
  called [flag 'a' "append", flag 'i' "ignore-interrupts", flag 'p',
      also "p" "output-error" .ownValue] words fun call => do
    let input ← readAll 0
    let text := input.toOption.getD ""
    let statuses ← call.operands.mapM fun path => do
      match ← writeFile path text (call.has "append") with
      | none => return 0
      | some reason => refuse s!"{Quoting.ifNeeded path}: {reason}"
    print text
    if let .error reason := input then
      tell s!"read error: {reason}"
      tell s!"standard input: {reason}"
    return worst ((if input.toOption.isSome then 0 else 1) :: statuses)

/-! ## Opposite orders -/

/-- The parts of a text, each with the separator behind it or before it. -/
def separated (separator : List Char) (before : Bool) : (part : List Char) → List Char →
    List (List Char)
  | part, [] => if part = [] then [] else [part.reverse]
  | part, c :: rest =>
    if before then
      if separator.isPrefixOf (c :: rest) ∧ part ≠ [] then
        part.reverse :: separated separator before [c] rest
      else separated separator before (c :: part) rest
    else
      let part := c :: part
      if separator.reverse.isPrefixOf part then
        part.reverse :: separated separator before [] rest
      else separated separator before part rest

/-- Prints the parts of texts, the last ones first. -/
def tac (words : List String) : Effect Nat :=
  called [flag 'b' "before", flag 'r' "regex", valued 's' "separator"] words fun call => do
    let separator := (call.value? "separator").getD "\n"
    let separator := if separator = "" then ['\x00'] else separator.toList
    let statuses ← call.inputs.mapM fun path => do
      match ← readFile path with
      | .ok text =>
        let parts := separated separator (call.has "before") [] text.toList
        print (String.join (parts.reverse.map String.ofList))
        return 0
      | .error (.opening reason) =>
        refuse s!"failed to open {Quoting.always path} for reading: {reason}"
      | .error (.reading _) => refuse s!"{Quoting.ifNeeded path}: read error: Invalid argument"
    return worst statuses

/-- Prints the lines of texts, each with its last character first. -/
def rev (words : List String) : Effect Nat :=
  called [] words fun call => do
    let reversed (line : String) : String :=
      String.join ((Octets.pieces line).reverse.map Piece.text)
    let shown (line : String) : String :=
      if line.endsWith "\n" then reversed (line.dropEnd 1).toString ++ "\n" else reversed line
    let statuses ← call.inputs.mapM fun path => do
      match ← readFile path with
      | .ok text =>
        print (String.join ((wholeLines text).map shown))
        return 0
      | .error (.opening reason) => refuse s!"cannot open {path}: {reason}"
      | .error (.reading reason) => refuse s!"{path}: {reason}"
    return worst statuses

end Programs

end FileScript.Shell
