import FileScript.Shell.Jobs
import FileScript.Shell.Lookup
import FileScript.Shell.Programs.Basic

/-!
# Programs that start programs

Some programs change what a process has and then become another program, and some start another
program as often as their input asks for it. How a program is started is a parameter of them: it
gets a path, a name and the words.
-/

namespace FileScript.Shell

namespace Programs

open Effect

/-- Lets the present process become a program. -/
abbrev Start := (path name : String) → List String → Effect Unit

/-- What a program says of a command that it cannot start, and the status. -/
def cannotStart (text : String) (e : FolderError) : Effect Unit := do
  tell s!"{text}: {e.text}"
  setStatus (match e with
    | .notFound | .notADirectory => 127
    | _ => 126)

/-- Becomes a program that is looked for by its name. `failed` is what is done if there is none. -/
def become (start : Start) (name : String) (words : List String)
    (failed : FolderError → Effect Unit) : Effect Unit := do
  match ← Lookup.startable name with
  | .ok path => start path name words
  | .error e => failed e

/-- The variables that a process gives to the programs that it starts, as they are listed. -/
def environment : Effect (List (String × String)) := do
  let shown := (← self).bindings.filter fun (_, v) => v.exported
  return shown.reverse.filterMap fun (name, v) => v.value.map (name, ·)

/-! ## Variables -/

/-- Takes all variables away. What is not given to programs stays. -/
def clearEnvironment : Effect Unit :=
  modifySelf fun p => { p with
    bindings := (p.bindings.filter fun (name, v) => !v.exported || name = "PATH").map
      fun (name, v) => (name, { v with exported := false }) }

/-- Gives a variable a value that programs get. -/
def exportVariable (name value : String) : Effect Unit :=
  putVariable name (some { value, exported := true })

/-- The settings of variables at the beginning of words, and what follows them. -/
def settingsOf (words : List String) : List (String × String) × List String :=
  let isSetting (word : String) : Bool := word.contains '=' && !word.startsWith "="
  let settings := words.takeWhile isSetting
  let pair (word : String) : String × String :=
    let name := word.toList.takeWhile (· ≠ '=')
    (String.ofList name, String.ofList (word.toList.drop (name.length + 1)))
  (settings.map pair, words.drop settings.length)

/-- Words of a text with blanks between them. -/
def splitBlanks (text : String) : List String :=
  ((text.toList.splitBy fun a b => isBlank a = isBlank b).filter fun run =>
    !run.all isBlank).map String.ofList

/-- Words in which an option gives several words in one. -/
def withSplitWords : List String → List String
  | "-S" :: text :: rest => splitBlanks text ++ rest
  | word :: rest =>
    match word.toList with
    | '-' :: 'S' :: text => splitBlanks (String.ofList text) ++ rest
    | _ => word :: rest
  | [] => []

/-- Goes to a directory, or tells why that cannot be. -/
def changeDirectory (path : String) : Effect Bool := do
  let failed (e : FolderError) : Effect Bool := do
    tell s!"cannot change directory to {Quoting.always path}: {e.text}"
    return false
  match ← find path with
  | .ok (place, .directory) =>
    modifySelf ({ · with directory := place })
    return true
  | .ok _ => failed .notADirectory
  | .error e => failed e

/-- Starts a program with other variables, or prints the variables. -/
def env (start : Start) (words : List String) : Effect Nat :=
  let act (call : Call) : Effect Nat := do
    let operands := call.operands
    let alone := operands.head? = some "-"
    let (settings, command) := settingsOf (if alone then operands.tail else operands)
    if call.has "ignore-environment" || alone then clearEnvironment
    if let some name := (call.values "unset").find? fun name => name = "" || name.contains '=' then
      return ← refuse s!"cannot unset {Quoting.value name}: Invalid argument" 125
    (call.values "unset").forM fun name => putVariable name none
    settings.forM fun (name, value) => exportVariable name value
    if command ≠ [] && call.has "null" then
      return ← misused "cannot specify --null (-0) with command" 125
    if let some path := call.value? "chdir" then
      if command = [] then return ← misused "must specify command with --chdir (-C)" 125
      unless ← changeDirectory path do return 125
    match command with
    | [] =>
      let ending := if call.has "null" then "\x00" else "\n"
      (← environment).forM fun (name, value) => print (name ++ "=" ++ value ++ ending)
      return 0
    | name :: rest =>
      become start name rest fun e => do
        cannotStart (Quoting.value name) e
        if e = .notFound ∧ name.contains ' ' then
          tell "use -[v]S to pass options in shebang lines"
      return (← self).status
  called [flag 'i' "ignore-environment", flag '0' "null", valued 'u' "unset", valued 'C' "chdir",
    valued 'S' "split-string", flag 'v' "debug"] (withSplitWords words) act 125 true

/-- Prints the values of variables. -/
def printenv (words : List String) : Effect Nat :=
  let act (call : Call) : Effect Nat := do
    let ending := if call.has "null" then "\x00" else "\n"
    let known ← environment
    if call.operands = [] then
      known.forM fun (name, value) => print (name ++ "=" ++ value ++ ending)
      return 0
    let found := call.operands.filterMap fun name => known.lookup name
    found.forM fun value => print (value ++ ending)
    return if found.length = call.operands.length then 0 else 1
  called [flag '0' "null"] words act 2 true

/-! ## Circumstances -/

/-- Starts a program with another priority, which makes no difference here. -/
def nice (start : Start) (words : List String) : Effect Nat :=
  let number (word : String) : Bool := word ≠ "" && word.toList.all Char.isDigit
  let words := match words with
    | word :: rest =>
      if number (word.drop 1).toString ∧ word.startsWith "-" then
        "-n" :: (word.drop 1).toString :: rest
      else words
    | [] => []
  let act (call : Call) : Effect Nat := do
    if let some word := call.value? "adjustment" then
      if (Integer.ofText? word).isNone then
        return ← refuse s!"invalid adjustment {Quoting.value word}" 125
    match call.operands with
    | [] =>
      if call.has "adjustment" then
        misused "a command must be given with an adjustment" 125
      else
        print "0\n"
        return 0
    | name :: rest =>
      become start name rest (cannotStart (Quoting.value name))
      return (← self).status
  called [valued 'n' "adjustment"] words act 125 true

/-- Starts a program that does not end when its terminal is closed. -/
def nohup (start : Start) (words : List String) : Effect Nat :=
  let act (call : Call) : Effect Nat := do
    match call.operands with
    | [] => lacksOperand 125
    | name :: rest =>
      modifySelf fun p => { p with ignored := 1 :: p.ignored }
      become start name rest (cannotStart s!"failed to run command {Quoting.always name}")
      return (← self).status
  called [] words act 125 true

/-- Commands that are stopped by a signal if they wait beyond a moment. -/
def Outcome.until {α : Type} (moment signal : Nat) (outcome : Outcome α) : Outcome α :=
  match outcome with
  | .ok value state => .ok value state
  | .error stop state => .error stop state
  | .pause (.time wake) state next =>
    if moment < wake then .pause (.time moment) state fun state => .error (.killed signal) state
    else .pause (.time wake) state fun state => Outcome.until moment signal (next state)
  | .pause wake state next =>
    .pause wake state fun state => Outcome.until moment signal (next state)

/-- The length of a time in nanoseconds, if a word denotes one. -/
abbrev Interval := String → Option Nat

/-- Starts a program and ends it by a signal if it takes too long. -/
def timeout (interval? : Interval) (start : Start) (words : List String) : Effect Nat :=
  let act (call : Call) : Effect Nat := do
    let usage : Effect Nat := do
      complain s!"Try '{(← self).name} --help' for more information.\n"
      return 125
    match call.operands with
    | length :: name :: rest =>
      let some nanoseconds := interval? length
        | misused s!"invalid time interval {Quoting.value length}" 125
      if let some word := (call.value? "kill-after").filter fun w => (interval? w).isNone then
        return ← misused s!"invalid time interval {Quoting.value word}" 125
      let word := (call.value? "signal").getD "TERM"
      let word := if word.startsWith "SIG" then (word.drop 3).toString else word
      let some signal := Signal.ofText? word 0
        | misused s!"{Quoting.value word}: invalid signal" 125
      let moment := (← shared).host.clock + nanoseconds
      let own ← self
      match ← Lookup.startable name with
      | .error e =>
        cannotStart s!"failed to run command {Quoting.value name}" e
        return (← self).status
      | .ok path =>
        let act := Jobs.inProcess (start path name rest) (return)
        let ending ← fun state =>
          if nanoseconds = 0 then act state
          else (Outcome.until moment signal (act state)).orElse fun stop state =>
            match stop with
            | .killed signal => .ok (.killed signal) { state with self := own }
            | stop => .error stop state
        match ending with
        | .exited status => return status
        | .killed found =>
          let late := nanoseconds ≠ 0 && moment ≤ (← shared).host.clock && found = signal
          if late && signal ≠ 9 && !call.has "preserve-status" then return 124
          if late && signal = 9 then throw (.killed 9)
          return 128 + found
    | _ => usage
  called [valued 'k' "kill-after", valued 's' "signal", long "preserve-status",
    long "foreground", flag 'v' "verbose"] words act 125 true

/-- Prints the paths of programs. -/
def which (words : List String) : Effect Nat :=
  called [flag 'a', flag 's'] words fun call => do
    if call.operands = [] then return 1
    let statuses ← call.operands.mapM fun name => do
      let paths ← if name.contains '/' then pure [name] else Lookup.programPaths name
      let found ← paths.filterM fun path => return (← Lookup.executableAt path).isNone
      let shown := if call.has "a" then found else found.take 1
      unless call.has "s" do shown.forM fun path => print (path ++ "\n")
      return if found = [] then 1 else 0
    return worst statuses

/-! ## Commands from the input -/

/-- How the input is divided into commands. -/
structure Division where
  words : Option Nat := none
  lines : Option Nat := none
  /-- What stands for a whole line in the words of the command. -/
  mark : Option String := none
  separator : Option Char := none
  /-- How many characters a command may have. -/
  size : Nat := 131072
  stop : Option String := none
  deriving Repr, Inhabited

/-- An item of the input, and whether a line ends behind it. -/
abbrev InputItem := String × Bool

/-- The quotation in which the reader of items is. -/
inductive ItemQuote where
  | none
  | escaped
  | quoted (mark : Char)
  deriving DecidableEq, Repr, Inhabited

/-- The mistake that a quotation has no end. -/
def unmatched (mark : Char) : Except String (List InputItem) :=
  let kind := if mark = '"' then "double" else "single"
  .error (s!"unmatched {kind} quote; by default quotes are special to xargs unless you use " ++
    "the -0 option")

/-- Reads items with blanks between them. Quotation marks and backslashes keep blanks together. If
`byLines` says so, only line ends divide items. -/
def readItems (byLines : Bool) : ItemQuote → (item : Option (List Char)) → List Char →
    Except String (List InputItem)
  | quote, item, [] =>
    match quote with
    | .quoted mark => unmatched mark
    | _ => .ok ((item.map fun chars => (String.ofList chars.reverse, true)).toList)
  | quote, item, c :: rest => do
    let chars := item.getD []
    match quote with
    | .escaped => readItems byLines .none (some (c :: chars)) rest
    | .quoted mark =>
      if c = mark then readItems byLines .none (some chars) rest
      else if c = '\n' then unmatched mark
      else readItems byLines quote (some (c :: chars)) rest
    | .none =>
      if c = '\\' then readItems byLines .escaped (some chars) rest
      else if c = '"' ∨ c = '\'' then readItems byLines (.quoted c) (some chars) rest
      else if c = '\n' ∨ (isBlank c ∧ !byLines) then
        match item with
        | none => readItems byLines .none none rest
        | some chars =>
          return (String.ofList chars.reverse, c = '\n') :: (← readItems byLines .none none rest)
      else if isBlank c ∧ item.isNone then readItems byLines .none none rest
      else readItems byLines .none (some (c :: chars)) rest

namespace Division

/-- The items of the input. -/
def items (d : Division) (text : String) : Except String (List InputItem) := do
  match d.separator with
  | some c =>
    let parts := text.splitOn c.toString
    let parts := if parts.getLast? = some "" then parts.dropLast else parts
    return parts.map (·, true)
  | none =>
    let found ← readItems d.mark.isSome .none none text.toList
    match d.stop with
    | some word => return found.takeWhile (·.1 ≠ word)
    | none => return found

/-- The items of the next command and the items that are left. -/
def take (d : Division) (lead : Nat) : (words lines size : Nat) → List InputItem →
    List String × List InputItem
  | _, _, _, [] => ([], [])
  | words, lines, size, (item, ends) :: rest =>
    let size := size + item.length + 1
    let isFull := d.words.any (· ≤ words) || d.lines.any (· ≤ lines) || d.size < lead + size
    if isFull ∧ words > 0 then ([], (item, ends) :: rest)
    else
      let (more, left) := d.take lead (words + 1) (if ends then lines + 1 else lines) size rest
      (item :: more, left)

/-- The items of all commands. -/
def commands (d : Division) (lead : Nat) : Nat → List InputItem → List (List String)
  | 0, _ | _, [] => []
  | fuel + 1, items =>
    let (own, left) := d.take lead 0 0 0 items
    own :: d.commands lead fuel left

end Division

/-- The number that an option of `xargs` asks for. -/
def argumentCount (letter word : String) : Except String Nat :=
  match Integer.ofText? word with
  | none => .error ("invalid number \"" ++ word ++ "\" for -" ++ letter ++ " option")
  | some n =>
    if n < 1 then .error s!"value {n} for -{letter} option should be >= 1" else .ok n.toNat

/-- The division that a call asks for. -/
def divisionOf (call : Call) : Except String Division := do
  let words ← (call.value? "max-args").mapM (argumentCount "n")
  let lines ← (call.value? "L").mapM (argumentCount "L")
  let size ← (call.value? "max-chars").mapM (argumentCount "s")
  let mark := (call.value? "replace").map fun word => if word = "" then "\x7b\x7d" else word
  let separator := match call.last? ["null", "delimiter"] with
    | some "null" => some '\x00'
    | some _ =>
      match ((call.value? "delimiter").getD "").toList with
      | ['\\', 'n'] => some '\n'
      | ['\\', 't'] => some '\t'
      | ['\\', '0'] => some '\x00'
      | c :: _ => some c
      | [] => none
    | none => none
  let last := call.last? ["replace", "L", "max-args"]
  return {
    words := if last = some "max-args" then words else if mark.isSome then some 1 else
      if lines.isSome ∧ last = some "L" then none else words
    lines := if last = some "L" then lines else none
    mark := if last = some "replace" then mark else none
    separator, size := size.getD 131072, stop := call.value? "eof" }

/-- The options of `xargs`. -/
def xargsOptions : List Known :=
  [flag '0' "null", valued 'a' "arg-file", valued 'd' "delimiter", valued 'E' "eof",
    valued 'I' "replace", { key := "replace", letter := some 'i', takes := .ownValue },
    { key := "L", letter := some 'L', takes := .value }, also "L" "max-lines" .ownValue,
    valued 'n' "max-args", flag 'o' "open-tty", valued 'P' "max-procs",
    flag 'r' "no-run-if-empty", valued 's' "max-chars", flag 't' "verbose", flag 'x' "exit",
    long "show-limits"]

/-- Runs one command of `xargs`; tells the status, and whether no other command is run. -/
def runItem (start : Start) (verbose : Bool) (name : String) (words : List String) :
    Effect (Nat × Bool) := do
  if verbose then
    complain (" ".intercalate ((name :: words).map Quoting.ifNeeded) ++ "\n")
  match ← Lookup.startable name with
  | .error e =>
    cannotStart name e
    return ((← self).status, true)
  | .ok path =>
    let input ← newStream { channel := .null, readable := true, writable := false }
    let ending ← Jobs.inProcess (do
      connect 0 (some input)
      start path name words) (return)
    match ending with
    | .exited 0 => return (0, false)
    | .exited 255 =>
      tell s!"{name}: exited with status 255; aborting"
      return (124, true)
    | .exited _ => return (123, false)
    | .killed signal =>
      tell s!"{name}: terminated by signal {signal}"
      return (125, true)

/-- Runs commands of `xargs` one after the other. -/
def runItems (start : Start) (verbose : Bool) : List (List String) → Effect Nat
  | [] => return 0
  | [] :: rest => runItems start verbose rest
  | (name :: words) :: rest => do
    let (status, stops) ← runItem start verbose name words
    if stops then return status
    return max status (← runItems start verbose rest)

/-- Starts a program with words from the input, as often as these ask for it. -/
def xargs (start : Start) (words : List String) : Effect Nat :=
  let act (call : Call) : Effect Nat := do
    match divisionOf call with
    | .error text => misused text
    | .ok d =>
      if call.has "max-args" ∧ d.mark.isSome then
        tell ("warning: options --max-args and --replace/-I/-i are mutually exclusive, " ++
          "ignoring previous --max-args value")
      let text ← match call.value? "arg-file" with
        | none => pure ((← readAll 0).toOption.getD "")
        | some path =>
          match ← readFile path with
          | .ok text => pure text
          | .error trouble =>
            return ← refuse s!"Cannot open input file {Quoting.always path}: {trouble.reason}"
      let command := if call.operands = [] then ["echo"] else call.operands
      let found := d.items text
      let items := (found.toOption).getD []
      let lead := total (command.map fun word => word.length + 1)
      let commands := match d.mark with
        | some mark =>
          items.map fun (item, _) =>
            command.take 1 ++ command.tail.map fun word => word.replace mark item
        | none =>
          if items = [] then
            if call.has "no-run-if-empty" ∨ found.toOption.isNone then [] else [command]
          else (d.commands lead (items.length + 1) items).map (command ++ ·)
      if let .error text := found then return ← refuse text
      runItems start (call.has "verbose") commands
  called xargsOptions words act 1 true

end Programs

end FileScript.Shell
