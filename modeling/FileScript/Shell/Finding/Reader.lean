import FileScript.Shell.Accounts
import FileScript.Shell.Calendar.Reader
import FileScript.Shell.Finding.Format
import FileScript.Shell.LinePattern.Reader
import FileScript.Shell.Programs.Mode
import FileScript.Shell.Programs.Whole

/-!
# Reading conditions on files

The words with which a search is called begin with the paths at which it starts. Behind them, each
word that begins with a dash is a test, an action, a way to join these, or says something of the
search as a whole.
-/

namespace FileScript.Shell.Finding

open Programs (ModeWord tell)

/-! ## The search as a whole -/

/-- How a search goes, as far as its words have said. -/
structure Plan where
  /-- Whether links count as what they lead to. -/
  follows : Bool := false
  /-- Whether the links at which the search starts count as what they lead to. -/
  followsStarts : Bool := false
  /-- Whether what is in a directory comes before it. -/
  inward : Bool := false
  /-- The least depth of files that are looked at. -/
  least : Nat := 0
  /-- The greatest depth of them. -/
  most : Option Nat := none
  /-- How patterns are written. -/
  dialect : String := "findutils-default"
  /-- A file that lists the paths at which the search starts. -/
  list : Option String := none
  /-- When the search has started. -/
  start : Int := 0
  /-- Whether days begin at midnight, and not with the search. -/
  fromMidnight : Bool := false
  /-- Whether an action takes the place of the usual one. -/
  acts : Bool := false
  prunes : Bool := false
  deletes : Bool := false
  /-- Whether a word has asked for what is in a directory to come before it. -/
  asksInward : Bool := false
  /-- How many commands are carried out for several files at once. -/
  gathering : Nat := 0
  /-- The parts of the condition, the last one first. -/
  tokens : List Token := []
  /-- The last word with a meaning. -/
  latest : Option String := none

/-- Steps of reading words. They fail with messages. -/
abbrev Step := StateT Plan (ExceptT (List String) Effect)

/-- Carries out commands of a step. -/
def run {α : Type} (act : Effect α) : Step α := StateT.lift (ExceptT.lift act)

/-- Fails with messages. -/
def refuseAll {α : Type} (texts : List String) : Step α :=
  StateT.lift (ExceptT.mk (return .error texts))

/-- Fails with a message. -/
def refuse {α : Type} (text : String) : Step α := refuseAll [text]

/-- Whether a word belongs to a condition. The first one of it cannot be a closing parenthesis or a
comma. -/
def isExpression (word : String) (isFirst : Bool) : Bool :=
  match word.toList with
  | '-' :: _ :: _ => true
  | [')'] | [','] => !isFirst
  | ['!'] | ['('] => true
  | _ => false

/-- Adds a part to the condition. Parts with nothing between them are joined. -/
def push (token : Token) : Step Unit :=
  modify fun p =>
    let isJoined := match token, p.tokens.head? with
      | .joint .., _ | .closing _, _ => false
      | _, some (.single _) | _, some (.closing _) => true
      | _, _ => false
    { p with tokens := token :: if isJoined then .joint "-a" andLevel :: p.tokens else p.tokens }

/-- Adds a test. -/
def pushTest (t : Test) : Step Unit := push (.single (.test t))

/-- Adds an action. Most actions take the place of the usual one. -/
def pushAction (a : Action) : Step Unit := do
  match a with
  | .prune => modify ({ · with prunes := true })
  | .quit => pure ()
  | .delete => modify ({ · with acts := true, deletes := true, inward := true })
  | .print .. | .perform _ => modify ({ · with acts := true })
  push (.single (.action a))

/-! ## Arguments -/

/-- Fails because of a word. -/
def invalid {α : Type} (name word : String) : Step α :=
  refuse ("invalid argument " ++ marked word ++ " to " ++ marked name)

/-- The next word. -/
def argument (name : String) (words : List String) : Step (String × List String) :=
  match words with
  | [] => refuse ("missing argument to " ++ marked name)
  | word :: rest => return (word, rest)

/-- How a word asks a number to compare, and what follows it. -/
def sideOf (text : List Char) : Ordering × List Char :=
  match text with
  | '+' :: rest => (.gt, rest)
  | '-' :: rest => (.lt, rest)
  | _ => (.eq, text)

/-- The bound that a text denotes. -/
def boundOf? (text : List Char) : Option Bound :=
  let (side, rest) := sideOf text
  let digits := rest.dropWhile isBlank
  let digits := match digits with
    | '+' :: more => more
    | _ => digits
  if digits ≠ [] ∧ digits.all Char.isDigit ∧ (Integer.digits 10 digits).1 < UInt64.size then
    some { side, number := (Integer.digits 10 digits).1 }
  else none

/-- The number of units of time that a text denotes, in nanoseconds. -/
def lengthOf? (unit : Nat) (text : List Char) : Option Int := do
  let (b, rest) ← Binary.scan? text
  guard (rest = [] ∧ !b.undefined ∧ !b.infinite)
  let (numerator, denominator) := b.fraction
  let length : Int := (numerator * unit * 1000000000 / denominator : Nat)
  return if b.negative then -length else length

/-- The bound of moments that a text denotes by the units of time between them and a base. Where
units are days, less than a number of them counts from the end of the day on. -/
def momentBound? (base : Int) (unit : Nat) (byDays : Bool) (text : List Char) :
    Option MomentBound := do
  let (side, rest) := sideOf text
  let length ← lengthOf? unit rest
  let second : Int := Calendar.secondLength
  let base := if byDays ∧ side = .lt then base + (Calendar.daySeconds - 1) * second else base
  return { side := side.swap, moment := base - length, window := unit * second }

/-- The unit that a letter stands for in a size. -/
def sizeUnit? (c : Char) : Option Nat :=
  match c with
  | 'b' => some 512
  | 'c' => some 1
  | 'w' => some 2
  | 'k' => some 1024
  | 'M' => some 1048576
  | 'G' => some 1073741824
  | _ => none

/-- The test of sizes that a word denotes. -/
def sizeTest (word : String) : Except String Test :=
  let text := word.toList
  let test (unit : Nat) (text : List Char) : Except String Test :=
    match boundOf? text with
    | some bound => .ok (.size unit bound)
    | none => .error ("Invalid argument " ++ marked word ++ " to -size")
  match text.getLast? with
  | none => .error "invalid null argument to -size"
  | some c =>
    match sizeUnit? c with
    | some unit => test unit text.dropLast
    | none =>
      if c.isDigit then test 512 text
      else .error ("invalid -size type " ++ marked c.toString)

/-- The kinds of files that a word lists. -/
def kindsOf (name : String) : (found : List Char) → List Char → Except String (List Char)
  | _, [] => .error s!"Arguments to {name} should contain at least one letter"
  | found, c :: rest => do
    if c = 'D' then
      throw (s!"{name} D is not supported because Solaris doors are not supported on the " ++
        "platform find was compiled on.")
    if c ∉ ['b', 'c', 'd', 'f', 'l', 'p', 's'] then
      throw s!"Unknown argument to {name}: {c}"
    if c ∈ found then
      throw ("Duplicate file type '" ++ c.toString ++ s!"' in the argument list to {name}.")
    match rest with
    | [] => return c :: found
    | [','] =>
      throw (s!"Last file type in list argument to {name} is missing, i.e., list is ending on: " ++
        "','")
    | ',' :: more => kindsOf name (c :: found) more
    | _ => throw s!"Must separate multiple arguments to {name} using: ','"

/-- The test of permissions that a word denotes. -/
def permissionTest? (word : String) : Option Test := do
  let (agreement, text) : Agreement × String := match word.toList with
    | '-' :: _ => (.all, (word.drop 1).toString)
    | '/' :: _ => (.some, (word.drop 1).toString)
    | _ => (.exactly, word)
  let mode ← ModeWord.ofText? text
  let file := mode.apply false 0 0
  let directory := mode.apply true 0 0
  let agreement := if agreement = .some ∧ file = 0 ∧ directory = 0 then .all else agreement
  return .permissions agreement file directory

/-- Whether a word asks for some of no permissions. -/
def asksForNone (word : String) : Bool :=
  word.startsWith "/" && ((permissionTest? word).any fun
    | .permissions .all .. => true
    | _ => false)

/-- A pattern in which backslashes mark parentheses and bars, with the marks taken from there to the
plain signs. -/
def exchanged : (inList : Bool) → List Char → List Char
  | _, [] => []
  | true, c :: rest => c :: exchanged (c ≠ ']') rest
  | false, '\\' :: c :: rest =>
    if c ∈ ['(', ')', '|'] then c :: exchanged false rest
    else if c ∈ ['\x7b', '\x7d', '+', '?'] then '\\' :: c :: exchanged false rest
    else '\\' :: c :: exchanged false rest
  | false, '[' :: '^' :: ']' :: rest => '[' :: '^' :: ']' :: exchanged true rest
  | false, '[' :: ']' :: rest => '[' :: ']' :: exchanged true rest
  | false, '[' :: rest => '[' :: exchanged true rest
  | false, c :: rest =>
    if c ∈ ['(', ')', '|', '\x7b', '\x7d'] then '\\' :: c :: exchanged false rest
    else c :: exchanged false rest

/-- The ways to write patterns. -/
def dialects : List String :=
  ["findutils-default", "ed", "emacs", "gnu-awk", "grep", "posix-awk", "awk", "posix-basic",
    "posix-egrep", "egrep", "posix-extended", "posix-minimal-basic", "sed"]

/-- The pattern that a word denotes. -/
def patternOf (dialect word : String) : Except LinePattern.Mistake LinePattern.Expression := do
  let isMixed := dialect = "findutils-default" || dialect = "emacs"
  let isBasic := dialect ∈ ["ed", "grep", "posix-basic", "posix-minimal-basic", "sed"]
  let text := if isMixed then String.ofList (exchanged false word.toList) else word
  let (e, _) ← LinePattern.read { extended := !isBasic, lenient := true, checksClasses := false }
    (Octets.pieces text)
  return e

/-! ## Commands -/

/-- Whether a text holds the mark that stands for a path. -/
def hasMark (word : String) : Bool := (word.splitOn "\x7b\x7d").length > 1

/-- The words of a command up to its end, whether it is for several files at once, and the words
behind it. -/
def commandWords (gathers : Bool) : (before : Option String) → List String →
    Option (List String × Bool × List String)
  | _, [] => none
  | before, word :: rest =>
    if word = ";" then some ([], false, rest)
    else if gathers ∧ word = "+" ∧ before.any hasMark then some ([], true, rest)
    else (commandWords gathers (some word) rest).map fun (words, together, rest) =>
      (word :: words, together, rest)

/-- Adds the command that comes next. -/
def commandArgument (name : String) (words : List String) : Step (List String) := do
  let inside := name.endsWith "dir"
  let asks := name.startsWith "-ok"
  if words.head? = some ";" then let _ ← invalid (α := Unit) name ";"
  match commandWords (!asks) none words with
  | none => refuse ("missing argument to " ++ marked name)
  | some (command, together, rest) =>
    if together then
      let marks := command.filter hasMark
      let mark := marks.getLastD ""
      let lone := "\x7b\x7d"
      let suffix := if inside then "dir" else ""
      let form := s!"-exec{suffix} ... \x7b\x7d +"
      if marks.length > 1 then
        refuse s!"Only one instance of \x7b\x7d is supported with -exec{suffix} ... +"
      if mark ≠ lone then
        refuse (s!"In {Quoting.value form} the {Quoting.value lone} must appear by itself, " ++
          s!"but you specified {Quoting.value mark}")
      let number := (← get).gathering
      modify ({ · with gathering := number + 1 })
      let words := command.dropLast
      pushAction (.perform { words, inside, asks, together := some number })
    else pushAction (.perform { words := command, inside, asks })
    return rest

/-! ## Single words -/

/-- The item at a path, which counts as what it leads to if links do. -/
def reference (path : String) : Step Place := do
  let p ← get
  match ← run (if p.followsStarts then Effect.find path else Effect.findEntry path) with
  | .ok (place, _) => return place
  | .error e => refuse s!"{Quoting.value path}: {e.text}"

/-- The time of the item at a path. -/
def referenceTime (path : String) : Step Int := do
  let place ← reference path
  return ((← run Effect.shared).host.folder.detailsOf place).time

/-- Adds the test of times behind that of a file or a date. -/
def newerArgument (name : String) (words : List String) : Step (List String) := do
  let kinds := (name.drop 6).toString.toList
  let later (moment : Int) : Step Unit := pushTest (.changed { side := .gt, moment, window := 0 })
  match kinds with
  | [x, y] =>
    if x ∉ ['a', 'c', 'm', 'B'] ∨ y ∉ ['a', 'c', 'm', 'B', 't'] then
      let _ ← refuse (α := Unit) ("invalid predicate " ++ marked name)
    if x = 'B' ∨ y = 'B' then
      run (tell "This system does not provide a way to find the birth time of a file.")
      let _ ← refuse (α := Unit) ("invalid predicate " ++ marked name)
    match words with
    | [] => refuse s!"The {Quoting.value name} test needs an argument"
    | word :: rest =>
      if y = 't' then
        match Calendar.ofText? (.ofTime (← get).start) word with
        | some (seconds, nanoseconds) => later (Calendar.timeAt seconds nanoseconds)
        | none =>
          refuse s!"I cannot figure out how to interpret {Quoting.value word} as a date or time"
      else later (← referenceTime word)
      return rest
  | _ => refuse ("invalid predicate " ++ marked name)

/-- Makes the file at a path empty. It fails if that cannot be. -/
def prepared (path : String) : Step String := do
  if (Redirect.deviceDescriptor? path).isNone then
    if let some reason ← run (Programs.writeFile path "" false) then
      refuse s!"{Quoting.value path}: {reason}"
  return path

/-- Adds an action that prints in a format. -/
def printing (path : Option String) (format : String) : Step Unit := do
  match formatParts format with
  | .error text => refuse text
  | .ok (parts, warnings) =>
    run (warnings.forM tell)
    pushAction (.print path parts)

/-- The number of a depth. -/
def depthArgument (name : String) (words : List String) : Step (Nat × List String) := do
  let (word, rest) ← argument name words
  match word.toNat? with
  | some n =>
    if !word.toList.all Char.isDigit then
      refuse s!"Expected a positive decimal integer argument to {name}, but got {Quoting.value word}"
    else if n ≤ Int32.maxValue.toInt.toNat then return (n, rest)
    else refuse s!"{word}: Numerical result out of range"
  | none =>
    refuse s!"Expected a positive decimal integer argument to {name}, but got {Quoting.value word}"

/-- Words that are tests without an argument. -/
def plainTests : List (String × Test) :=
  [("true", .constant true), ("false", .constant false), ("empty", .empty),
    ("readable", .present), ("writable", .present), ("executable", .executable),
    ("nouser", .ownerless), ("nogroup", .groupless)]

/-- Words that are actions without an argument. -/
def plainActions : List (String × Action) :=
  [("print", .print none [.value {} 'p', .text "\n"]),
    ("print0", .print none [.value {} 'p', .text "\x00"]), ("ls", .print none [.line]),
    ("prune", .prune), ("quit", .quit), ("delete", .delete)]

/-- Words that join tests. -/
def joints : List (String × Nat) :=
  [("a", andLevel), ("and", andLevel), ("o", orLevel), ("or", orLevel), (",", commaLevel)]

/-- Words that make no difference. -/
def idleWords : List String :=
  ["mount", "xdev", "noleaf", "warn", "nowarn", "ignore_readdir_race",
    "noignore_readdir_race"]

/-- The bound in the next word. A word without it is told in a form of its own. -/
def boundArgument (name : String) (words : List String) : Step (Bound × List String) := do
  match words with
  | [] => invalid name name
  | word :: rest =>
    match boundOf? word.toList with
    | some bound => return (bound, rest)
    | none => invalid name word

/-- The beginning of the present day in a search. The search itself takes place in the middle of a
day. -/
def Plan.dayStart (p : Plan) : Int :=
  let day : Int := Calendar.daySeconds * Calendar.secondLength
  if p.fromMidnight then -(day / 2) else p.start - day

/-- The bound of moments in the next word. -/
def momentArgument (name : String) (unit : Nat) (byDays : Bool) (words : List String) :
    Step (MomentBound × List String) := do
  let (word, rest) ← argument name words
  let start := (← get).dayStart
  let day : Int := Calendar.daySeconds * Calendar.secondLength
  match momentBound? (if byDays then start else start + day) unit byDays word.toList with
  | some bound => return (bound, rest)
  | none => invalid name word

/-- The number of a user or a group in the next word. -/
def accountArgument (name : String) (test : Bound → Test) (number? : String → Option Nat)
    (unknown : String) (words : List String) : Step (List String) := do
  let (word, rest) ← argument name words
  if word = "" then refuse s!"The argument to {name} should not be empty"
  match number? word with
  | some number =>
    pushTest (test { side := .eq, number })
    return rest
  | none => refuse s!"{Quoting.value word} is not the name of {unknown}"

/-- Reads a word that takes arguments, and them. -/
def withArguments (name key : String) (words : List String) : Step (List String) := do
  let tested (make : String → Step Test) : Step (List String) := do
    let (word, rest) ← argument name words
    pushTest (← make word)
    return rest
  let checked (found : Except String Test) : Step Test :=
    match found with
    | .ok t => return t
    | .error text => refuse text
  let pattern (part : NamePart) (folds : Bool) : Step (List String) :=
    tested fun word => return .named part folds word
  let expression (folds : Bool) : Step (List String) :=
    tested fun word => do
      match patternOf (← get).dialect word with
      | .ok e => return .described e folds
      | .error mistake =>
        refuse ("failed to compile regular expression '" ++ word ++ s!"': {mistake.text}")
  let bounded (make : Bound → Test) : Step (List String) := do
    let (bound, rest) ← boundArgument name words
    pushTest (make bound)
    return rest
  let timed (unit : Nat) (byDays : Bool) : Step (List String) := do
    let (bound, rest) ← momentArgument name unit byDays words
    pushTest (.changed bound)
    return rest
  let printed (format : String) : Step (List String) := do
    let (path, rest) ← argument name words
    printing (some (← prepared path)) format
    return rest
  match key with
  | "name" => pattern .base false
  | "iname" => pattern .base true
  | "path" | "wholename" => pattern .path false
  | "ipath" | "iwholename" => pattern .path true
  | "lname" => pattern .target false
  | "ilname" => pattern .target true
  | "regex" => expression false
  | "iregex" => expression true
  | "type" | "xtype" =>
    tested fun word => do
      match kindsOf name [] word.toList with
      | .ok letters => return .kind letters (key = "xtype")
      | .error text => refuse text
  | "size" => tested fun word => checked (sizeTest word)
  | "perm" =>
    tested fun word => do
      match permissionTest? word with
      | some t =>
        if asksForNone word then
          run (tell (s!"warning: you have specified a mode pattern {word} (which is equivalent " ++
            "to /000). The meaning of -perm /000 has now been changed to be consistent with " ++
            "-perm -000; that is, while it used to match no files, it now matches all files."))
        return t
      | none => refuse s!"invalid mode {Quoting.value word}"
  | "links" => bounded .names
  | "inum" => bounded .number
  | "uid" => bounded .owner
  | "gid" => bounded .group
  | "user" => accountArgument name .owner Accounts.userNumber? "a known user" words
  | "group" => accountArgument name .group Accounts.groupNumber? "an existing group" words
  | "mtime" | "atime" | "ctime" => timed 86400 true
  | "mmin" | "amin" | "cmin" => timed 60 false
  | "used" => do
    let (word, rest) ← argument name words
    match momentBound? 0 86400 false word.toList with
    | some bound => pushTest (.idle bound)
    | none => refuse s!"Invalid argument {word} to {name}"
    return rest
  | "newer" | "anewer" | "cnewer" =>
    tested fun word => do
      return .changed { side := .gt, moment := ← referenceTime word, window := 0 }
  | "samefile" => tested fun word => return .same (← reference word)
  | "fstype" => tested fun word => return .constant (word = "overlay")
  | "context" => do
    let _ ← argument name words
    refuse s!"invalid predicate {name}: SELinux is not enabled."
  | "maxdepth" => do
    let (n, rest) ← depthArgument name words
    modify ({ · with most := some n })
    pushTest (.constant true)
    return rest
  | "mindepth" => do
    let (n, rest) ← depthArgument name words
    modify ({ · with least := n })
    pushTest (.constant true)
    return rest
  | "regextype" => do
    let (word, rest) ← argument name words
    if word ∉ dialects then
      refuse (s!"Unknown regular expression type {Quoting.value word}; valid types are " ++
        ", ".intercalate (dialects.map Quoting.value) ++ ".")
    modify ({ · with dialect := word })
    pushTest (.constant true)
    return rest
  | "files0-from" => do
    let (word, rest) ← argument name words
    modify ({ · with list := some word })
    pushTest (.constant true)
    return rest
  | "printf" => do
    let (format, rest) ← argument name words
    printing none format
    return rest
  | "fprint" => printed "%p\n"
  | "fprint0" => printed "%p\\0"
  | "fls" => do
    let (path, rest) ← argument name words
    pushAction (.print (some (← prepared path)) [.line])
    return rest
  | "fprintf" => do
    let (path, rest) ← argument name words
    match rest with
    | [] => invalid name path
    | format :: rest =>
      printing (some (← prepared path)) format
      return rest
  | "exec" | "execdir" | "ok" | "okdir" => commandArgument name words
  | _ => refuse ("unknown predicate " ++ marked name)

/-- Reads a word of the condition with its arguments; tells the words that are left. -/
def single (name : String) (words : List String) : Step (List String) := do
  let key := if name.startsWith "-" then (name.drop 1).toString else name
  if name.startsWith "-newer" ∧ name.length = 8 then return ← newerArgument name words
  match plainTests.lookup key, plainActions.lookup key, joints.lookup key with
  | some t, _, _ => pushTest t
  | none, some a, _ => pushAction a
  | none, none, some level => push (.joint name level)
  | none, none, none =>
    match key with
    | "(" => push .opening
    | ")" => push (.closing false)
    | "!" | "not" => push (.negation name)
    | "depth" | "d" =>
      modify ({ · with inward := true, asksInward := true })
      pushTest (.constant true)
    | "daystart" => modify ({ · with fromMidnight := true })
    | "follow" =>
      modify ({ · with follows := true, followsStarts := true })
      pushTest (.constant true)
    | _ =>
      if key ∉ idleWords then return ← withArguments name key words
      pushTest (.constant true)
  return words

/-- Reads the words of the condition. -/
def readAll : Nat → List String → Step Unit
  | 0, _ | _, [] => return
  | fuel + 1, word :: rest => do
    if !isExpression word false then
      let text := "paths must precede expression: " ++ marked word
      let hint := "possible unquoted pattern after predicate "
      match (← get).latest, ← run (Effect.find word) with
      | some name, .ok _ => refuseAll [text, hint ++ marked name ++ "?"]
      | _, _ => refuse text
    modify ({ · with latest := some word })
    readAll fuel (← single word rest)

/-- The condition that has been read. The usual action follows it if it holds none. -/
def conditionOf (p : Plan) : Except String Condition :=
  let print : Token := .single (.action (.print none [.value {} 'p', .text "\n"]))
  let tokens := p.tokens.reverse
  if tokens = [] then Condition.ofTokens [print]
  else if p.acts then Condition.ofTokens tokens
  else Condition.ofTokens (.opening :: tokens ++ [.closing true, .joint "-a" andLevel, print])

/-- Reads the words of the condition; yields how the search goes, and the condition, or messages. -/
def planOf (p : Plan) (words : List String) : Effect (Except (List String) (Plan × Condition)) := do
  match ← ((readAll (words.length + 1) words).run p).run with
  | .error texts => return .error texts
  | .ok ((), p) =>
    match conditionOf p with
    | .error text => return .error [text]
    | .ok c =>
      if p.deletes ∧ p.prunes ∧ !p.asksInward then
        return .error ["The -delete action automatically turns on -depth, but -prune does nothing " ++
          "when -depth is in effect.  If you want to carry on anyway, just explicitly use the " ++
          "-depth option."]
      return .ok (p, c)

end FileScript.Shell.Finding
