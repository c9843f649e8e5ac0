import FileScript.Shell.Builtins
import FileScript.Shell.Programs

/-!
# Running shell commands

Commands are carried out by recursion on a budget, which bounds how deeply they can be nested and
how often a loop can go round; it is larger than any script needs. What carries out the parts of a
command is a parameter of everything but the recursion itself.
-/

namespace FileScript.Shell

/-- What matters for how a command is carried out. -/
structure Mode where
  /-- Its status is tested, so that a failure does not end the shell. -/
  tested : Bool := false
  /-- It is the last command of its process, which can become the program that the command starts.
  -/
  last : Bool := false
  deriving DecidableEq, Repr, Inhabited

namespace Mode

/-- The mode of a command whose status is tested. -/
def test : Mode := { tested := true }

/-- The mode of the last command of a process. -/
def final : Mode := { last := true }

/-- The mode of a part that is not the last of its command. -/
def inner (mode : Mode) : Mode := { mode with last := false }

end Mode

/-- Carries out a command. -/
abbrev Runner := Mode → Command → Effect Unit

namespace Run

open Effect

/-! ## Texts -/

/-- The lines that have been read in part or wholly when so much of a text is left. -/
def linesRead (text rest : List Char) : String :=
  let read := text.take (text.length - rest.length)
  if read = [] ∨ read.getLast? = some '\n' then String.ofList read
  else
    let more := rest.takeWhile (· ≠ '\n')
    String.ofList (read ++ more ++ (rest.drop more.length).take 1)

/-- Reads and carries out the lines of a text; tells whether there was any command. Lines that come
from a file are printed as they are read, if an option asks for it. -/
def evalLines (run : Runner) (mode : Mode) (inFile : Bool) (budget : Nat) :
    Nat → ReaderState → Bool → Effect Bool
  | 0, _, ran => return ran
  | lines + 1, r, ran => do
    let s ← get
    let text := r.rest
    let r := { r with aliases := s.self.aliases, documents := s.shared.documents }
    let result := Reader.line budget r
    let after := match result with
      | .ok _ after | .error _ after => after
    if inFile && 'v' ∈ s.self.options then complain (linesRead text after.rest)
    match result with
    | .error reason r =>
      modifySelf ({ · with line := r.line })
      fail s!"Syntax error: {reason}"
    | .ok found r =>
      modifyShared ({ · with documents := r.documents })
      match found with
      | none => return ran
      | some .nothing => evalLines run mode inFile budget lines r ran
      | some c =>
        run { mode with last := mode.last && r.last matches .endOfText } c
        evalLines run mode inFile budget lines r true

/-- Reads and carries out a text. Without any command in it, it succeeds. -/
def eval (run : Runner) (mode : Mode) (text : String) (inFile : Bool := false) : Effect Unit := do
  let chars := text.toList
  let budget := Reader.fuelFor chars
  let ran ← evalLines run mode inFile budget (chars.length + 1) { rest := chars } false
  unless ran do setStatus 0

/-! ## Signals and processes -/

/-- Answers the signals that have been caught. -/
def answerSignals (run : Runner) : Effect Unit := do
  let p ← self
  unless p.caught = [] do
    modifySelf ({ · with caught := [] })
    p.caught.forM fun signal => do
      match (← self).traps.lookup signal with
      | some action => eval run {} action
      | none => return
    setStatus p.status

/-- Carries out what a process does at last. -/
def finish (run : Runner) : Effect Unit := do
  let p ← self
  match p.traps.lookup 0 with
  | none => return
  | some action =>
    modifySelf fun p => { p with
      traps := p.traps.filter (·.1 ≠ 0), finalStatus := some p.status, loops := 0 }
    match ← attempt (eval run {} action) with
    | .error (.killed signal) => throw (.killed signal)
    | .error .exhausted => throw .exhausted
    | .error .leave => return
    | _ => setStatus p.status

/-- Runs a command in a process of its own, to its end. -/
def inProcess (run : Runner) (act : Effect Unit) : Effect Ending :=
  Jobs.inProcess act (finish run)

/-- Runs a command in a process of its own and takes over its status. -/
def waitFor (run : Runner) (act : Effect Unit) : Effect Unit := do
  setStatus (← Jobs.settle (← inProcess run act))

/-- The output of a command, without line ends at its end. -/
def substitute (run : Runner) (body : Command) : Effect String := do
  match body with
  | .nothing => return ""
  | _ =>
    let pipe ← newStream { channel := .pipe .empty, readable := true, writable := true }
    let ending ← inProcess run do
      connect 1 (some pipe)
      run .final body
    Jobs.drain pipe
    let bytes ← Channel.unread (← shared) <$> channelOf pipe
    setChannel pipe .null
    let status ← Jobs.settle ending
    modifySelf ({ · with substitutionStatus := status })
    let chars := match bytes with
      | .ok bytes => (Octets.ofBytes bytes).toList.filter (· ≠ '\x00')
      | .error _ => []
    return String.ofList (chars.reverse.dropWhile (· = '\n')).reverse
where
  /-- Where a stream leads. -/
  channelOf (index : Nat) : Effect Channel := do
    return ((← shared).streams[index]?.map (·.channel)).getD .null

/-- Carries out a command with redirections that have been expanded. -/
def redirected (run : Runner) (targets : List (Nat × Target)) (act : Effect Unit)
    (failed : Effect Unit) : Effect Unit := do
  let saved ← Redirect.connections targets
  if ← Redirect.applyAll (substitute run) true targets saved then
    ensuring act (Redirect.restore saved)
  else
    setStatus 2
    failed

/-- Ends the shell if a command has failed whose status is not tested and the options ask for
it. -/
def checkStatus (mode : Mode) : Effect Unit := do
  let p ← self
  if p.status ≠ 0 ∧ ¬mode.tested ∧ 'e' ∈ p.options then throw .leave

/-! ## Programs -/

/-- The variables of a new shell, which gets the exported ones of a process. -/
def initialVariables (p : Process) : List (String × Variable) :=
  let standard (name value : String) : String × Variable := (name, { value := some value })
  let own : List (String × Variable) :=
    [standard "IFS" " \t\n", standard "OPTIND" "1", standard "PPID" (toString (p.number - 1)),
      standard "PS1" "# ", standard "PS2" "> ", standard "PS4" "+ ",
      ("PWD", { value := some (pathOf p.route), exported := true })]
  let given := (p.bindings.lookup "PATH").any fun v => v.exported && v.value.isSome
  let own := if given then own else own ++ [standard "PATH" Lookup.usualPath]
  let names := own.map (·.1)
  own ++ p.bindings.filter fun (name, v) => v.exported && v.value.isSome && name ∉ names

/-- The words that a shell is called with, when its options have been read. -/
structure Invocation where
  /-- Whether the first of the words is a command text. -/
  isCommand : Bool := false
  words : List String := []

/-- Reads the options of a shell. -/
def invocation : Nat → Invocation → List String → Effect Invocation
  | 0, i, _ => return i
  | _, i, [] => return i
  | fuel + 1, i, word :: rest => do
    let read (isOn : Bool) (letters : List Char) : Effect Invocation := do
      let plain := letters.filter fun c => c ≠ 'c' && c ≠ 'l'
      let isCommand := i.isCommand || 'c' ∈ letters
      invocation fuel { i with isCommand } (← Settings.setLetters isOn plain rest)
    match word.toList with
    | ['-'] | ['-', '-'] => return { i with words := rest }
    | '-' :: letters => read true letters
    | '+' :: letters => read false letters
    | _ => return { i with words := word :: rest }

/-- Reads and carries out a file. -/
def evalFile (run : Runner) (path absent : String) : Effect Unit := do
  match ← find path with
  | .ok (_, .file bytes) => eval run {} (Octets.ofBytes bytes) true
  | .ok _ => setStatus 0
  | .error e => fail (s!"cannot open {path}: " ++ Redirect.openReason e absent)

/-- Carries out what a new shell is called for: a command text, a file or the standard input. -/
def shell (run : Runner) (words : List String) : Effect Unit := do
  modifySelf fun p => {
    name := p.name, number := p.number, shellNumber := p.number, ancestors := p.ancestors
    bindings := initialVariables p, descriptors := p.descriptors, directory := p.directory
    route := p.route
    traps := p.traps, line := 0, mask := p.mask }
  let i ← invocation (words.length + 1) {} words
  match i.isCommand, i.words with
  | true, [] => fail "-c requires an argument"
  | true, text :: rest =>
    modifySelf fun p => { p with name := rest.headD p.name, arguments := rest.tail }
    eval run .final text
  | false, path :: rest =>
    modifySelf ({ · with arguments := rest })
    if let .ok _ ← find path then modifySelf ({ · with name := path })
    evalFile run path "No such file"
  | false, [] =>
    match ← readAll 0 with
    | .ok text => eval run {} text true
    | .error _ => setStatus 0

/-- The program that the first line of a script names, with a word for it, if there is one. -/
def interpreter? (bytes : ByteArray) : Option (String × List String) :=
  match (Octets.ofBytes (bytes.extract 0 256)).toList with
  | '#' :: '!' :: rest =>
    let isGap (c : Char) : Bool := c = ' ' || c = '\t'
    let line := (rest.takeWhile (· ≠ '\n')).dropWhile isGap
    let line := (line.reverse.dropWhile isGap).reverse
    let path := line.takeWhile (!isGap ·)
    let word := (line.drop path.length).dropWhile isGap
    if path = [] then none
    else some (String.ofList path, if word = [] then [] else [String.ofList word])
  | _ => none

/-- The programs that start other programs. -/
def starter? (name : String) : Option (Programs.Start → List String → Effect Nat) :=
  match name with
  | "awk" | "mawk" => some Programs.awk
  | "env" => some Programs.env
  | "find" => some Programs.findFiles
  | "nice" => some Programs.nice
  | "nohup" => some Programs.nohup
  | "timeout" => some (Programs.timeout Programs.interval?)
  | "xargs" => some Programs.xargs
  | _ => none

/-- Runs the program at a path, with its name and words. A script is run by the program that its
first line names, or by a shell. -/
def program (run : Runner) : Nat → (path name : String) → List String → Effect Unit
  | 0, _, _, _ => throw .exhausted
  | fuel + 1, path, name, words => do
    let failed (e : FolderError) : Effect Unit := do
      warn s!"{name}: {Lookup.startError e}"
      setStatus (Lookup.startStatus e)
      throw .leave
    let own := Programs.lastName path
    if let some e ← Lookup.executableAt path then failed e
    match ← find path with
    | .error e => failed e
    | .ok (_, .file bytes) =>
      match interpreter? bytes with
      | none => shell run (path :: words)
      | some (other, more) =>
        if let some e ← Lookup.executableAt other then failed e
        program run fuel other other (more ++ path :: words)
    | .ok _ =>
      modifySelf ({ · with builtin := none, name })
      if own = "sh" ∨ own = "dash" then shell run words
      else match starter? own, Programs.find? own with
        | some act, _ => setStatus (← Programs.perform own (act (program run fuel)) words)
        | none, some act => setStatus (← Programs.perform own act words)
        | none, none => setStatus 0

/-- How many programs can call one another. -/
def programDepth : Nat := 64

/-- Runs the program at a path and waits for it, unless the process has nothing else to do. -/
def launch (run : Runner) (mode : Mode) (path name : String) (words : List String) :
    Effect Unit := do
  let act := program run programDepth path name words
  if mode.last ∧ (← self).traps.isEmpty then
    giveTurn
    act
    throw .leave
  else waitFor run act

/-! ## Simple commands -/

/-- How many functions can call one another. -/
def callDepth : Nat := 1000

/-- Calls a function. -/
def call (run : Runner) (mode : Mode) (body : Command) (words : List String) : Effect Unit := do
  let before ← self
  if before.calls ≥ callDepth then fail s!"Maximum function recursion depth ({callDepth}) reached"
  modifySelf fun p => { p with
    arguments := words, calls := p.calls + 1, loops := 0, optionPosition := 1
    optionOffset := none }
  let result ← attempt (run mode.inner body)
  modifySelf fun p => { p with
    arguments := before.arguments, calls := before.calls, loops := before.loops
    optionPosition := before.optionPosition, optionOffset := before.optionOffset }
  match result with
  | .error .return => return
  | _ => resume result

/-- Carries out the commands of a file in the present shell. -/
def source (run : Runner) (words : List String) : Effect Nat := do
  match words with
  | [] => return 0
  | path :: _ =>
    let found ← if path.contains '/' then pure (.ok path) else Lookup.programPath path
    match found with
    | .error _ => fail s!"{path}: not found"
    | .ok path =>
      let line := (← self).line
      setStatus 0
      if let .error e := ← find path then
        fail (s!"cannot open {path}: " ++ Redirect.openReason e "No such file")
      modifySelf ({ · with builtin := some path })
      let result ← attempt (evalFile run path "No such file")
      modifySelf ({ · with line })
      match result with
      | .error .return | .ok () => return (← self).status
      | .error stop => throw stop

/-- Puts a program in the place of the shell. -/
def replace (run : Runner) (words : List String) : Effect Nat := do
  match words with
  | [] => return 0
  | name :: rest =>
    let start (path : String) : Effect Nat := do
      program run programDepth path name rest
      throw .leave
    let failed (e : FolderError) : Effect Nat := do
      warn s!"{name}: {Lookup.startError e}"
      setStatus (Lookup.startStatus e)
      throw .leave
    if name.contains '/' then start name
    else match ← Lookup.programPath name with
      | .ok path => start path
      | .error e => failed e

/-- What a built-in command does. -/
def builtinAction (run : Runner) (mode : Mode) (name : String) (words : List String) :
    Effect Nat := do
  match name with
  | "eval" =>
    eval run mode.inner (" ".intercalate words)
    return (← self).status
  | "." => source run words
  | "exec" => replace run words
  | _ =>
    match Builtins.find? name with
    | some act => act words
    | none => return 0

/-- Carries out a built-in command. An error in a special one ends the shell. -/
def builtin (run : Runner) (mode : Mode) (special : Bool) (name : String) (words : List String) :
    Effect Unit := do
  let before := (← self).builtin
  modifySelf ({ · with builtin := some name, outputFailure := none })
  let result ← attempt do
    let status ← builtinAction run mode name words
    if (← self).outputFailure.isSome then
      warn s!"{name}: I/O error"
      return status ||| 1
    else return status
  modifySelf ({ · with builtin := before, outputFailure := none })
  match result with
  | .ok status => setStatus status
  | .error .fault => if special then throw .fault
  | .error stop => throw stop

/-- Prints a command before it is carried out. -/
def trace (run : Runner) (stream : Option Nat) (assignments fields : List String) :
    Effect Unit := do
  if ← option 'x' then
    let lead := (← lookup? "PS4").getD ""
    let r : ReaderState := { rest := lead.toList ++ ['"'] }
    let budget := Reader.fuelFor r.rest
    modifySelf fun p => { p with options := p.options.filter (· ≠ 'x') }
    let lead ← match Reader.wholeWord (Reader.substitutions budget) .plain budget
        { manner := .double, doubled := true } r with
      | .ok d _ => Expansion.documentText (substitute run) (d.fragments.reverse.filter notMark)
      | .error _ _ => pure lead
    modifySelf fun p => { p with
      options := Settings.optionLetters.filter fun c => c = 'x' || c ∈ p.options }
    let current := (← self).descriptors.lookup 2
    connect 2 stream
    complain (lead ++ " ".intercalate (assignments ++ fields) ++ "\n")
    connect 2 current
where
  /-- Whether a fragment is not a quotation mark. -/
  notMark : Fragment → Bool
    | .mark => false
    | _ => true

/-- The name of a command after words that only say how to look for it, the words that are not
expanded yet, and whether there were such words. -/
def commandWords (run : Runner) : Nat → List String → List Word → Bool →
    Effect (List String × List Word × Bool)
  | 0, fields, rest, bare => return (fields, rest, bare)
  | fuel + 1, fields, rest, bare => do
    match fields, rest with
    | [], w :: rest => commandWords run fuel (← Expansion.fieldsOf (substitute run) w) rest bare
    | ["command"], w :: rest =>
      let more ← Expansion.fieldsOf (substitute run) w
      commandWords run fuel ("command" :: more) rest bare
    | "command" :: next :: others, _ =>
      if (!bare && ((← self).functions.lookup "command").isSome) then return (fields, rest, bare)
      else if next = "--" then
        if others = [] then
          match rest with
          | w :: rest =>
            let more ← Expansion.fieldsOf (substitute run) w
            commandWords run fuel ("command" :: "--" :: more) rest bare
          | [] => return (fields, rest, bare)
        else commandWords run fuel others rest true
      else if next.startsWith "-" ∧ next ≠ "-" then
        if next.toList.tail.all (· = 'p') then
          commandWords run fuel ("command" :: others) rest bare
        else return (fields, rest, bare)
      else commandWords run fuel (next :: others) rest true
    | _, _ => return (fields, rest, bare)

/-- Expands the words of a command. Those of some commands that give variables values are not
split. -/
def expandWords (run : Runner) (words : List Word) : Effect (List String × Bool) := do
  let (fields, rest, bare) ← commandWords run (4 * words.length + 16) [] words false
  let name := fields.headD ""
  let keeps := name ∈ ["export", "readonly", "local"]
    && (bare || ((← self).functions.lookup name).isNone)
  let more ← rest.mapM fun w => do
    if keeps ∧ Reader.isAssignment w then
      return [← Expansion.textOfWord (substitute run) w .assignment]
    else Expansion.fieldsOf (substitute run) w
  return (fields ++ more.flatten, bare)

/-- Carries out a simple command whose words and redirections have been expanded. -/
def simpleExpanded (run : Runner) (mode : Mode) (assignments : List Word) (fields : List String)
    (bare : Bool) (targets : List (Nat × Target)) : Effect Unit := do
  let name := fields.headD ""
  let meaning ← Lookup.meaning name (!bare)
  let isBuiltin := match meaning with
    | .builtin => true
    | _ => false
  let special := isBuiltin && !bare && Lookup.isReserved name
  let persists := special || fields = []
  let errors := (← self).descriptors.lookup 2
  let exported := fields.length > 1 && name = "exec"
  let body : Effect Unit := do
    let shown ← assignments.mapM fun w => do
      let text ← Expansion.textOfWord (substitute run) w .assignment
      let (variableName, value) := splitAssignment text
      unless persists do remember variableName
      assign variableName (value.getD "") (!persists || exported)
      return text
    trace run errors shown fields
    match fields with
    | [] => setStatus (← self).substitutionStatus
    | name :: words =>
      let meaning ← match meaning with
        | .builtin | .function .. => pure meaning
        | _ => Lookup.meaning name (!bare)
      match meaning with
      | .function line body =>
        discard (pure line)
        call run mode body words
      | .builtin => builtin run mode special name words
      | .program path =>
        unless name.contains '/' do
          modifySelf fun p => { p with hashed := name :: p.hashed.filter (· ≠ name) }
        launch run mode path name words
      | .unknown e =>
        warn s!"{name}: {Lookup.startError e}"
        setStatus 127
  let failed : Effect Unit := if special then throw .fault else return
  let whole : Effect Unit :=
    if name = "exec" ∧ isBuiltin then do
      let saved ← Redirect.connections targets
      if ← Redirect.applyAll (substitute run) true targets saved then body
      else
        setStatus 2
        failed
    else redirected run targets body failed
  if persists then whole else withOwnVariables whole

/-- Carries out a simple command. -/
def simple (run : Runner) (mode : Mode) (line : Nat) (assignments words : List Word)
    (redirections : List Redirection) : Effect Unit := do
  modifySelf ({ · with line, substitutionStatus := 0 })
  let (fields, bare) ← expandWords run words
  let targets ← redirections.mapM (Redirect.target (substitute run))
  simpleExpanded run mode assignments fields bare targets

/-! ## Compound commands -/

/-- Carries out commands whose output goes to the next one each. -/
def pipeline (run : Runner) (input : Option Nat) : List Command → Effect Unit
  | [] => return
  | [last] => do
    waitFor run do
      if input.isSome then connect 0 input
      run .final last
  | c :: rest => do
    let pipe ← newStream { channel := .pipe .empty, readable := true, writable := true }
    let ending ← inProcess run do
      if input.isSome then connect 0 input
      connect 1 (some pipe)
      run .final c
    Jobs.report ending
    Jobs.receiveSent
    Jobs.drain pipe
    pipeline run (some pipe) rest

/-- Carries out a command and tells whether a loop around it is left; then with the number of loops
that are left besides. -/
def inLoop (act : Effect Unit) : Effect (Option (Option Stop)) := do
  match ← attempt act with
  | .ok () => return none
  | .error (.breakLoops count) =>
    return some (if count > 1 then some (.breakLoops (count - 1)) else none)
  | .error (.continueLoops count) =>
    return if count > 1 then some (some (.continueLoops (count - 1))) else none
  | .error stop => return some (some stop)

/-- Counts a loop while a command is carried out. -/
def counted (act : Effect Unit) : Effect Unit := do
  modifySelf fun p => { p with loops := p.loops + 1 }
  ensuring act (modifySelf fun p => { p with loops := p.loops - 1 })

/-- Goes on after a loop has been left. -/
def afterLoop (stop : Option Stop) : Effect Unit :=
  match stop with
  | some stop => throw stop
  | none => return

/-- Repeats a command as long as a test asks for it. `status` is what the loop comes to if it ends
now. -/
def loop (test body : Effect Unit) (untilTrue : Bool) : Nat → Nat → Effect Unit
  | 0, _ => throw .exhausted
  | fuel + 1, status => do
    giveTurn
    let again ← attempt test
    match again with
    | .error (.continueLoops 1) => loop test body untilTrue fuel status
    | _ =>
      match ← inLoop (resume again) with
      | some stop =>
        if stop.isNone then setStatus status
        afterLoop stop
      | none =>
        if ((← self).status = 0) = !untilTrue then
          match ← inLoop body with
          | some stop => afterLoop stop
          | none => loop test body untilTrue fuel (← self).status
        else setStatus status

/-- Carries out a command for each of some texts. -/
def forEach (run : Runner) (mode : Mode) (name : String) (body : Command) :
    List String → Effect Unit
  | [] => return
  | text :: rest => do
    assign name text
    match ← inLoop (run mode body) with
    | some stop => afterLoop stop
    | none => forEach run mode name body rest

/-- Carries out the first clause with a pattern that fits a text. -/
def choose (run : Runner) (mode : Mode) (text : List Char) : List Clause → Effect Unit
  | [] => setStatus 0
  | .clause patterns body :: rest => do
    if ← fitsSome patterns then
      match body with
      | .nothing => setStatus 0
      | _ => run mode body
    else choose run mode text rest
where
  /-- Whether one of some patterns fits. -/
  fitsSome : List Word → Effect Bool
    | [] => return false
    | w :: rest => do
      if Pattern.fits (← Expansion.patternOf (substitute run) w) text then return true
      else fitsSome rest

/-- Carries out a command in the process that has been made for it. -/
def alone (run : Runner) (mode : Mode) (targets : List (Nat × Target)) (body : Command) :
    Effect Unit := do
  let saved ← Redirect.connections targets
  if ← Redirect.applyAll (substitute run) false targets saved then run mode body
  else
    setStatus 2
    throw .fault

/-- Carries out a command, with the budget for its parts. -/
def step (budget : Nat) (run : Runner) (mode : Mode) (c : Command) : Effect Unit := do
  match c with
  | .nothing => return
  | .simple line assignments words redirections =>
    simple run mode line assignments words redirections
    checkStatus mode
  | .pipeline commands =>
    pipeline run none commands
    checkStatus mode
  | .negated body =>
    run .test body
    let status := (← self).status
    setStatus (if status = 0 then 1 else 0)
  | .sequence first second =>
    run mode.inner first
    run mode second
  | .onSuccess first second =>
    run .test first
    if (← self).status = 0 then run mode second
  | .onFailure first second =>
    run .test first
    if (← self).status ≠ 0 then run mode second
  | .redirected line body redirections =>
    modifySelf ({ · with line })
    let targets ← redirections.mapM (Redirect.target (substitute run))
    redirected run targets (run mode.inner body) (return)
  | .subshell line body redirections =>
    modifySelf ({ · with line })
    let targets ← redirections.mapM (Redirect.target (substitute run))
    if mode.last ∧ (← self).traps.isEmpty then
      modifySelf ({ · with jobs := [] })
      alone run mode targets body
      throw .leave
    waitFor run (alone run { mode with last := true } targets body)
    checkStatus mode
  | .background line body redirections =>
    if line > 0 then modifySelf ({ · with line })
    let targets ← redirections.mapM (Redirect.target (substitute run))
    Jobs.launch body targets
    setStatus 0
  | .conditional test success failure =>
    run .test test
    if (← self).status = 0 then run mode success
    else match failure with
      | .nothing => setStatus 0
      | _ => run mode failure
  | .loop untilTrue test body =>
    counted (loop (run .test test) (run mode.inner body) untilTrue budget 0)
  | .forEach line name words body =>
    modifySelf ({ · with line })
    let texts ← Expansion.fieldsOfAll (substitute run) words
    if texts = [] then setStatus 0
    else counted (forEach run mode.inner name body texts)
  | .choice line w clauses =>
    modifySelf ({ · with line })
    let text ← Expansion.textOfWord (substitute run) w
    choose run mode text.toList clauses
  | .function line name body =>
    modifySelf fun p => { p with
      functions := (name, line, body) :: p.functions.filter (·.1 ≠ name) }
    setStatus 0

/-- Carries out a command within a budget. -/
def execute : Nat → Runner
  | 0, _, _ => throw .exhausted
  | budget + 1, mode, c => do
    if ← option 'n' then return
    step budget (execute budget) mode c
    answerSignals (execute budget)

/-- The budget of a shell. -/
def budget : Nat := 1000000

end Run

end FileScript.Shell
