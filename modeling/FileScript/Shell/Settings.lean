import FileScript.Shell.Integer
import FileScript.Shell.Permissions
import FileScript.Shell.State

/-!
# Commands about the shell itself

The built-in commands that read and change variables, options, arguments and aliases.
-/

namespace FileScript.Shell

namespace Effect

/-- Reads the options at the beginning of the words of a command: those in `allowed`, of which those
in `valued` take a value. -/
def options (allowed : List Char) (words : List String) (valued : List Char := []) :
    Effect (List (Char × String) × List String) :=
  go (words.length + 1) words
where
  /-- Reads the letters of one word. -/
  letters (rest : List String) : List Char →
      Effect (List (Char × String) × List String)
    | [] => return ([], rest)
    | c :: more => do
      if c ∈ valued then
        match more, rest with
        | [], value :: rest => return ([(c, value)], rest)
        | [], [] => fail s!"No arg for -{c} option"
        | _, _ => return ([(c, String.ofList more)], rest)
      else if c ∈ allowed then
        let (found, rest) ← letters rest more
        return ((c, "") :: found, rest)
      else fail s!"Illegal option -{c}"
  /-- Reads words as long as they are options. -/
  go : Nat → List String → Effect (List (Char × String) × List String)
    | 0, words => return ([], words)
    | _, [] => return ([], [])
    | fuel + 1, word :: rest => do
      match word.toList with
      | ['-', '-'] => return ([], rest)
      | '-' :: c :: more =>
        let (found, rest) ← letters rest (c :: more)
        let (others, rest) ← go fuel rest
        return (found ++ others, rest)
      | _ => return ([], word :: rest)

/-- The natural number that a word denotes. -/
def natural (word : String) : Effect Nat :=
  match (Integer.ofText? word).filter fun n => 0 ≤ n ∧ n ≤ Int32.maxValue.toInt with
  | some n => return n.toNat
  | none => fail s!"Illegal number: {word}"

/-- The name and the value in a word that gives a variable a value. -/
def splitAssignment (word : String) : String × Option String :=
  let name := word.toList.takeWhile (· ≠ '=')
  match word.toList.drop name.length with
  | _ :: value => (String.ofList name, some (String.ofList value))
  | [] => (word, none)

/-- Fails if a text cannot be the name of a variable. -/
def checkName (name : String) : Effect Unit := do
  unless Octets.isName name do fail s!"{name}: bad variable name"

/-- The name of a variable; what follows an equals sign does not count. -/
def checkedName (word : String) : Effect String := do
  let (name, _) := splitAssignment word
  checkName name
  return name

/-- Prints variables, in the order of their names. -/
def printVariables (lead : String) (all : List (String × Variable)) : Effect Unit :=
  (all.mergeSort fun a b => a.1 ≤ b.1).forM fun (name, v) =>
    match v.value with
    | some value => print s!"{lead}{name}={quoted value}\n"
    | none => if lead = "" then return else print s!"{lead}{name}\n"

end Effect

namespace Settings

open Effect

/-! ## Variables -/

/-- Gives variables a property, or prints those that have it. -/
def mark (command : String) (has : Variable → Bool) (give : Variable → Variable)
    (words : List String) : Effect Nat := do
  let (found, names) ← options ['p'] words
  if found ≠ [] ∨ names = [] then
    printVariables (command ++ " ") ((← self).bindings.filter (has ·.2))
  else
    names.forM fun word => do
      let (name, value) := splitAssignment word
      checkName name
      match value with
      | some value => assign name value
      | none => pure ()
      putVariable name (some (give ((← binding? name).getD {})))
  return 0

/-- Lets variables be passed on to programs. -/
def exportVariables : List String → Effect Nat :=
  mark "export" (·.exported) ({ · with exported := true })

/-- Lets variables keep their values. -/
def protect : List String → Effect Nat :=
  mark "readonly" (·.constant) ({ · with constant := true })

/-- Takes variables or functions away. -/
def forget (words : List String) : Effect Nat := do
  let (found, names) ← options ['v', 'f'] words
  names.forM fun name => do
    if (found.getLast?.map (·.1)) = some 'f' then
      modifySelf fun p => { p with functions := p.functions.filter (·.1 ≠ name) }
    else
      Effect.unset (← checkedName name)
  return 0

/-- Makes variables belong to the present function. -/
def makeLocal (words : List String) : Effect Nat := do
  if (← self).calls = 0 then fail "not in a function"
  words.forM fun word => do
    if word = "-" then
      modifySelf fun p => { p with
        savedOptions := match p.savedOptions with
          | none :: rest => some p.options :: rest
          | others => others }
    else
      let (name, value) := splitAssignment word
      checkName name
      remember name
      if let some value := value then assign name value
  return 0

/-! ## Options and arguments -/

/-- The options of the shell: their names and letters. -/
def optionNames : List (String × Option Char) :=
  [("errexit", some 'e'), ("noglob", some 'f'), ("ignoreeof", some 'I'), ("interactive", some 'i'),
    ("monitor", some 'm'), ("noexec", some 'n'), ("stdin", some 's'), ("xtrace", some 'x'),
    ("verbose", some 'v'), ("vi", some 'V'), ("emacs", some 'E'), ("noclobber", some 'C'),
    ("allexport", some 'a'), ("notify", some 'b'), ("nounset", some 'u'),
    ("privileged", some 'p'), ("nolog", none), ("debug", none)]

/-- The letters of the options, in the order in which they are shown. -/
def optionLetters : List Char := (optionNames.filterMap (·.2)).reverse

/-- Switches an option on or off. -/
def setOption (letter : Char) (isOn : Bool) : Effect Unit := do
  unless letter ∈ optionLetters do fail s!"Illegal option -{letter}"
  modifySelf fun p => { p with
    options := optionLetters.filter fun c => if c = letter then isOn else c ∈ p.options }

/-- Switches the option with a name on or off; without a name, prints the options. -/
def setNamedOption (name : Option String) (isOn : Bool) : Effect Unit := do
  let current := (← self).options
  let isSet (letter : Option Char) : Bool := letter.any (· ∈ current)
  match name with
  | some name =>
    match optionNames.lookup name with
    | some (some letter) => setOption letter isOn
    | some none => pure ()
    | none => fail s!"Illegal option -o {name}"
  | none =>
    if isOn then
      print "Current option settings\n"
      optionNames.forM fun (name, letter) =>
        print (name.pushn ' ' (16 - name.length) ++ if isSet letter then "on\n" else "off\n")
    else optionNames.forM fun (name, letter) =>
      print ((if isSet letter then "set -o " else "set +o ") ++ name ++ "\n")

/-- Switches the options with some letters; yields the words that are left. -/
def setLetters (isOn : Bool) : List Char → List String → Effect (List String)
  | [], rest => return rest
  | 'o' :: more, rest => do
    setNamedOption rest.head? isOn
    setLetters isOn more rest.tail
  | c :: more, rest => do
    setOption c isOn
    setLetters isOn more rest

/-- Reads the options at the beginning of some words. Yields the words that are left, and whether
they are arguments even if there are none. -/
def readOptions : Nat → List String → Effect (List String × Bool)
  | 0, words => return (words, false)
  | _, [] => return ([], false)
  | fuel + 1, word :: rest => do
    match word.toList with
    | ['-'] =>
      setOption 'x' false
      setOption 'v' false
      return (rest, false)
    | ['-', '-'] => return (rest, true)
    | '-' :: letters => readOptions fuel (← setLetters true letters rest)
    | '+' :: letters => readOptions fuel (← setLetters false letters rest)
    | _ => return (word :: rest, false)

/-- Sets options and arguments, or prints all variables. -/
def set (words : List String) : Effect Nat := do
  if words = [] then printVariables "" (← self).bindings
  else
    let (arguments, always) ← readOptions (words.length + 1) words
    if always ∨ arguments ≠ [] then setArguments arguments
  return 0
where
  /-- Sets the arguments of the shell. -/
  setArguments (arguments : List String) : Effect Unit :=
    modifySelf ({ · with arguments, optionOffset := none })

/-- Drops arguments at the beginning. -/
def shift (words : List String) : Effect Nat := do
  let count ← match words with
    | [] => pure 1
    | word :: _ => natural word
  if count > (← self).arguments.length then fail "can't shift that many"
  modifySelf fun p => { p with arguments := p.arguments.drop count, optionOffset := none }
  return 0

/-- Sets the permissions that new files do not get, or prints them. -/
def umask (words : List String) : Effect Nat := do
  let (found, words) ← options ['S'] words
  let mask := (← self).mask
  match words with
  | [] =>
    if found = [] then print s!"{Octets.padded 4 mask 8}\n"
    else
      let part (name : String) (bits : Nat) : String :=
        let letters := [('r', 4), ('w', 2), ('x', 1)].filter fun (_, bit) => bits &&& bit = 0
        s!"{name}={String.ofList (letters.map (·.1))}"
      let parts := [part "u" (mask / 64), part "g" (mask / 8 % 8), part "o" (mask % 8)]
      print (",".intercalate parts ++ "\n")
  | word :: _ =>
    if (word.toList.headD ' ').isDigit then
      unless word.all fun c => '0' ≤ c && c ≤ '7' do fail s!"Illegal number: {word}"
      let mask := (Integer.digits 8 word.toList).1 % 512
      modifySelf ({ · with mask })
    else match Permissions.change? (511 - mask) word with
      | some allowed => modifySelf ({ · with mask := 511 - allowed })
      | none => fail s!"Illegal mode: {word}"
  return 0

/-! ## Aliases -/

/-- Sets or prints aliases. -/
def defineAliases (words : List String) : Effect Nat := do
  let line (name value : String) : String := s!"{name}={quoted value}\n"
  if words = [] then
    ((← self).aliases.mergeSort fun a b => a.1 ≤ b.1).forM fun (name, value) =>
      print (line name value)
    return 0
  else
    let statuses ← words.mapM fun word => do
      match splitAssignment word with
      | (name, some value) =>
        modifySelf fun p => { p with aliases := (name, value) :: p.aliases.filter (·.1 ≠ name) }
        return 0
      | (name, none) =>
        match (← self).aliases.lookup name with
        | some value =>
          print (line name value)
          return 0
        | none =>
          complain s!"alias: {name} not found\n"
          return 1
    return statuses.foldl max 0

/-- Takes aliases away. -/
def removeAliases (words : List String) : Effect Nat := do
  let (found, names) ← options ['a'] words
  if found ≠ [] then
    modifySelf ({ · with aliases := [] })
    return 0
  let statuses ← names.mapM fun name => do
    if ((← self).aliases.lookup name).isSome then
      modifySelf fun p => { p with aliases := p.aliases.filter (·.1 ≠ name) }
      return 0
    else
      complain s!"unalias: {name} not found\n"
      return 1
  return statuses.foldl max 0

end Settings

end FileScript.Shell
