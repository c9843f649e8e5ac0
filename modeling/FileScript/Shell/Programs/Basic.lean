import FileScript.Shell.Quoting
import FileScript.Shell.Redirect

/-!
# What programs have in common

A program reads its options, which are letters behind a dash or names behind two, wherever they
stand among its words. It reads files by their names, and tells on the standard error stream what is
wrong with them.
-/

namespace FileScript.Shell

namespace Programs

open Effect

/-! ## Messages -/

/-- Prints a message of a program. -/
def tell (text : String) : Effect Unit := do complain s!"{(← self).name}: {text}\n"

/-- Ends a program that was called in a wrong way. -/
def misused (text : String) (status : Nat := 1) : Effect Nat := do
  tell text
  complain s!"Try '{(← self).name} --help' for more information.\n"
  return status

/-- Ends a program for a reason. -/
def refuse (text : String) (status : Nat := 1) : Effect Nat := do
  tell text
  return status

/-- Ends a program that lacks an operand. -/
def lacksOperand (status : Nat := 1) : Effect Nat := misused "missing operand" status

/-- Ends a program that has an operand too many. -/
def hasExtra (word : String) (status : Nat := 1) : Effect Nat :=
  misused s!"extra operand {Quoting.value word}" status

/-! ## Sizes -/

/-- All sizes together. -/
def total (sizes : List Nat) : Nat := sizes.foldl (· + ·) 0

/-! ## Words -/

/-- What an option takes besides its name. -/
inductive Takes where
  | nothing
  | value
  /-- A value that must stand in the same word. -/
  | ownValue
  deriving DecidableEq, Repr, Inhabited

/-- An option that a program knows. It can have a letter and a long name. -/
structure Known where
  key : String
  letter : Option Char := none
  name : String := ""
  takes : Takes := .nothing
  deriving DecidableEq, Repr, Inhabited

/-- An option that is written with a letter or with a long name, which is its key then. -/
def flag (letter : Char) (name : String := "") (takes : Takes := .nothing) : Known :=
  { key := if name = "" then letter.toString else name, letter := some letter, name, takes }

/-- An option that takes a value. -/
def valued (letter : Char) (name : String := "") : Known := flag letter name .value

/-- An option that has a long name only. -/
def long (name : String) (takes : Takes := .nothing) : Known := { key := name, name, takes }

/-- Another long name of an option. -/
def also (key name : String) (takes : Takes := .nothing) : Known := { key, name, takes }

/-- Options that take nothing, by their letters. -/
def flags (letters : String) : List Known := letters.toList.map fun letter => flag letter

/-- The words of a program: its options with their values, and its operands. -/
structure Call where
  options : List (String × String) := []
  operands : List String := []

namespace Call

/-- Whether an option is among the words. -/
def has (call : Call) (key : String) : Bool := call.options.any (·.1 = key)

/-- The value of the last option with a key. -/
def value? (call : Call) (key : String) : Option String :=
  ((call.options.filter (·.1 = key)).getLast?).map (·.2)

/-- The values of the options with a key. -/
def values (call : Call) (key : String) : List String :=
  (call.options.filter (·.1 = key)).map (·.2)

/-- The key of the last option that is among some. -/
def last? (call : Call) (keys : List String) : Option String :=
  ((call.options.filter (·.1 ∈ keys)).getLast?).map (·.1)

/-- The options in the letters of a word. The last of them may take the next word as its value. -/
def letters (known : List Known) : List Char →
    Except String (List (String × String) × Option Known)
  | [] => .ok ([], none)
  | c :: rest =>
    match known.find? (·.letter = some c) with
    | none => .error ("invalid option -- '" ++ c.toString ++ "'")
    | some option =>
      match option.takes with
      | .value =>
        .ok (if rest = [] then ([], some option) else ([(option.key, String.ofList rest)], none))
      | .ownValue => .ok ([(option.key, String.ofList rest)], none)
      | .nothing => do
        let (found, last) ← letters known rest
        return ((option.key, "") :: found, last)

/-- The options that every program knows. -/
def common : List Known := [long "help", long "version"]

/-- The option that a long name denotes, which can be shortened. `word` is the whole word. -/
def named (known : List Known) (word name : String) : Except String Known :=
  match known.find? (·.name = name) with
  | some option => .ok option
  | none =>
    let fitting := known.filter (·.name.startsWith name)
    match fitting with
    | [] => .error s!"unrecognized option '{word}'"
    | option :: others =>
      if others.all fun o => o.key = option.key ∧ o.takes = option.takes then .ok option
      else
        let names := fitting.map fun o => " '--" ++ o.name ++ "'"
        .error (s!"option '{word}' is ambiguous; possibilities:" ++ String.join names)

/-- The option in a word with a long name, and whether it takes the next word as its value. -/
def longOption (known : List Known) (word : String) :
    Except String (Known × Option String) := do
  let text := word.toList.drop 2
  let name := text.takeWhile (· ≠ '=')
  let option ← named (known.filter (·.name ≠ "") ++ common) word (String.ofList name)
  match text.drop name.length, option.takes with
  | [], .nothing | [], .ownValue => return (option, some "")
  | [], .value => return (option, none)
  | _ :: _, .nothing => .error s!"option '--{option.name}' doesn't allow an argument"
  | _ :: value, _ => return (option, some (String.ofList value))

/-- What is said of an option that lacks its value. -/
def lacking (option : Known) (isLong : Bool) : String :=
  match option.letter, isLong with
  | some letter, false => "option requires an argument -- '" ++ letter.toString ++ "'"
  | _, _ => "option '--" ++ option.name ++ "' requires an argument"

/-- Reads the words of a program. `ordered` says whether all words behind the first operand are
operands. `last` is an option that takes the first word as its value. -/
def read (known : List Known) (ordered : Bool) : (last : Option (Known × Bool)) → List String →
    Except String Call
  | none, [] => .ok {}
  | some (option, isLong), [] => .error (lacking option isLong)
  | some (option, _), value :: rest => do
    let call ← read known ordered none rest
    return { call with options := (option.key, value) :: call.options }
  | none, word :: rest =>
    match word.toList with
    | ['-', '-'] => .ok { operands := rest }
    | '-' :: '-' :: _ => do
      match ← longOption known word with
      | (option, some value) =>
        let call ← read known ordered none rest
        return { call with options := (option.key, value) :: call.options }
      | (option, none) => read known ordered (some (option, true)) rest
    | '-' :: c :: more => do
      let (found, last) ← letters known (c :: more)
      let call ← read known ordered (last.map (·, false)) rest
      return { call with options := found ++ call.options }
    | _ =>
      if ordered then .ok { operands := word :: rest }
      else do
        let call ← read known ordered none rest
        return { call with operands := word :: call.operands }

end Call

/-- Whether all words behind the first operand are operands, as a variable can ask for. -/
def isOrdered : Effect Bool := return (← lookup? "POSIXLY_CORRECT").isSome

/-- Reads the words of a program and lets it act, or tells what is wrong with the words. -/
def called (known : List Known) (words : List String) (act : Call → Effect Nat)
    (status : Nat := 1) (ordered : Bool := false) : Effect Nat := do
  match Call.read known (ordered || (← isOrdered)) none words with
  | .ok call => if call.has "help" || call.has "version" then return 0 else act call
  | .error text => misused text status

/-- The operands, or the standard input if there are none. -/
def Call.inputs (call : Call) : List String := if call.operands = [] then ["-"] else call.operands

/-- One of several values that a word denotes, which can be shortened; or what is wrong with the
word. Values in one group mean the same; the first of them stands for the group. -/
def chosenOf (groups : List (List String)) (what word : String) : Except String String :=
  let fitting := groups.filter fun group => group.any (·.startsWith word)
  match groups.find? (word ∈ ·), fitting with
  | some group, _ | none, [group] => .ok (group.headD "")
  | none, _ =>
    let kind := if fitting = [] then "invalid" else "ambiguous"
    let shown (group : List String) : String := ", ".intercalate (group.map Quoting.value)
    .error (s!"{kind} argument {Quoting.value word} for {Quoting.value what}\n" ++
      "Valid arguments are:" ++ String.join (groups.map fun group => "\n  - " ++ shown group))

/-- One of several values that a word denotes, which can be shortened; or what is wrong with the
word. -/
def chosen (values : List String) (what word : String) : Except String String :=
  chosenOf (values.map fun v => [v]) what word

/-! ## Files -/

/-- Why a text cannot be read: its file cannot be opened, or not be read from. -/
inductive Trouble where
  | opening (reason : String)
  | reading (reason : String)
  deriving DecidableEq, Repr, Inhabited

/-- What is said about a text that cannot be read. -/
def Trouble.reason : Trouble → String
  | .opening reason | .reading reason => reason

/-- Whether a file cannot be opened. -/
def Trouble.isOpening : Trouble → Bool
  | .opening _ => true
  | .reading _ => false

/-- How much a program takes of a text that it could read; it may matter whether the text can be
read again. -/
abbrev Taking := String → Bool → Nat

/-- Takes a text to its end. -/
def wholly : Taking := fun text _ => text.length

/-- Reads from a descriptor. The text that is found there is taken as far as the program needs it.
-/
def readDescriptor (descriptor : Nat) (taking : Taking) : Effect (Except Trouble String) := do
  match ← unread descriptor with
  | .error reason => return .error (.reading reason)
  | .ok bytes =>
    let text := Octets.ofBytes bytes
    passBytes descriptor (taking text (← seekable descriptor))
    return .ok text

/-- Reads a file. A dash stands for the standard input. -/
def readFile (path : String) (taking : Taking := wholly) : Effect (Except Trouble String) := do
  match if path = "-" then some 0 else Redirect.deviceDescriptor? path with
  | some descriptor => readDescriptor descriptor taking
  | none =>
    match ← find path with
    | .error e => return .error (.opening e.text)
    | .ok (_, .directory) => return .error (.reading FolderError.isADirectory.text)
    | .ok (_, .file bytes) => return .ok (Octets.ofBytes bytes)
    | .ok (_, .input) => readDescriptor 0 taking
    | .ok (_, .endless) => return .ok ("".pushn '\x00' FolderItem.endlessSize)
    | .ok _ => return .ok ""

/-- Reads several files, and tells the path and the trouble of the first one that cannot be read.
Files that cannot be opened come before others. -/
def readFiles (paths : List String) :
    Effect (List (String × Except Trouble String) × Option (String × Trouble)) := do
  let found ← paths.mapM fun path => do return (path, ← readFile path)
  let failed := found.filterMap fun (path, text) =>
    match text with
    | .error trouble => some (path, trouble)
    | .ok _ => none
  return (found, (failed.find? (·.2.isOpening)).or failed.head?)

/-- How a message names a file of which it says more. -/
def described (path : String) : String :=
  Quoting.always (if path = "-" then "standard input" else path)

/-- Says at last that the standard input was not open, if a program should have read it. -/
def checkInput (text : String) (paths : List String) : Effect Unit := do
  if "-" ∈ paths ∧ (← streamAt? 0).isNone then tell text

/-! ## Lines -/

/-- The lines of a text with their ends. The last one may lack it. -/
def wholeLines (text : String) : List String :=
  let lines := text.splitOn "\n"
  lines.dropLast.map (· ++ "\n") ++ if lines.getLastD "" = "" then [] else [lines.getLastD ""]

/-- The lines of a text without their ends. -/
def linesOf (text : String) : List String :=
  let parts := text.splitOn "\n"
  if parts.getLast? = some "" then parts.dropLast else parts

/-- A text that has each of some lines with its end. -/
def ofLines (lines : List String) : String := String.join (lines.map (· ++ "\n"))

/-- A number with spaces before it. -/
def aligned (width n : Nat) : String :=
  let digits := toString n
  "".pushn ' ' (width - digits.length) ++ digits

/-- Puts an end to each part of a text. -/
def endedBy (ending : Char) (parts : List String) : String :=
  String.join (parts.map (·.push ending))

/-- A text with spaces behind it. -/
def padRight (width : Nat) (text : String) : String := text.pushn ' ' (width - text.length)

/-- The parts of a text that end with a character, without their ends. -/
def partsOf (ending : Char) (text : String) : List String :=
  let parts := text.splitOn ending.toString
  if parts.getLast? = some "" then parts.dropLast else parts

/-- Reads texts and does something with each of them. Of a text that cannot be read, the reason is
told. -/
def forTexts (paths : List String) (act : String → String → Effect Unit) : Effect Nat := do
  let statuses ← paths.mapM fun path => do
    match ← readFile path with
    | .ok text =>
      act path text
      return 0
    | .error trouble =>
      tell s!"{Quoting.ifNeeded path}: {trouble.reason}"
      return 1
  return statuses.foldl max 0

/-- Reads texts and goes on at each of them from what has been found before. Of a text that cannot be
read, the reason is told. -/
def foldTexts {σ : Type} (paths : List String) (start : σ) (act : σ → String → Effect σ) :
    Effect (σ × Nat) :=
  paths.foldlM (fun (state, status) path => do
    match ← readFile path with
    | .ok text => return (← act state text, status)
    | .error trouble =>
      tell s!"{Quoting.ifNeeded path}: {trouble.reason}"
      return (state, 1)) (start, 0)

/-- The greatest of some statuses. -/
def worst (statuses : List Nat) : Nat := statuses.foldl max 0

end Programs

end FileScript.Shell
