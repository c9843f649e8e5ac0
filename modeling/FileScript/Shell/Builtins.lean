import FileScript.Shell.Format
import FileScript.Shell.Jobs
import FileScript.Shell.Lookup
import FileScript.Shell.Reading
import FileScript.Shell.Test

/-!
# Built-in commands

The commands that are part of the shell and need not run other commands.
-/

namespace FileScript.Shell

namespace Builtins

open Effect

/-! ## Output and tests -/

/-- Prints words. -/
def echo (words : List String) : Effect Nat := do
  print (Format.echo words)
  return 0

/-- Prints words in a format. -/
def printf (words : List String) : Effect Nat := do
  match ← options [] words with
  | (_, []) => fail "usage: printf format [arg ...]"
  | (_, format :: words) =>
    let (failure, p) := Format.printf format words
    p.warnings.forM warn
    if let some text := failure then
      warn text
      print p.output
      setStatus 2
      throw .fault
    print p.output
    return if p.warnings = [] then 0 else 1

/-- Decides a condition. -/
def test (words : List String) : Effect Nat := return if ← Test.holds false words then 0 else 1

/-- Decides a condition in brackets. -/
def bracket (words : List String) : Effect Nat := do
  if words.getLast? ≠ some "]" then fail "missing ]"
  test words.dropLast

/-! ## Directories -/

/-- Prints the working directory. -/
def pwd (words : List String) : Effect Nat := do
  let (found, _) ← options ['L', 'P'] words
  let p ← self
  print (pathOf (if (found.getLast?.map (·.1)) = some 'P' then p.directory else p.route) ++ "\n")
  return 0

/-- Whether a path is not looked for in other directories. -/
def isAnchored (path : String) : Bool :=
  path.startsWith "/" || ((Path.components path).head?.any fun name => name = "." || name = "..")

/-- The names that lead to a directory from the present one. A name and two points behind it cancel
each other out, unless links are followed. -/
def routeTo (follows : Bool) (path : String) : Effect (Option (Place × Place)) := do
  let own := (← self).route
  let route := Folder.descend (if path.startsWith "/" then [] else own)
    (Path.components (Octets.toString path))
  match ← find (if follows then path else pathOf route) with
  | .ok (place, .directory) => return some (place, if follows then place else route)
  | _ => return none

/-- Goes to another directory. -/
def cd (words : List String) : Effect Nat := do
  let (found, words) ← options ['L', 'P'] words
  let follows := (found.getLast?.map (·.1)) = some 'P'
  let goesBack := words.head? = some "-"
  let wanted ← match words with
    | [] => lookup? "HOME"
    | "-" :: _ => lookup? "OLDPWD"
    | path :: _ => pure (some path)
  let path := wanted.getD ""
  let bases ← if isAnchored path then pure [""] else do
    pure (((← lookup? "CDPATH").getD "").splitOn ":")
  let path := if path = "" then "." else path
  let candidates := bases.map fun base => (base, if base = "" then path else s!"{base}/{path}")
  let found ← candidates.filterMapM fun (base, path) => do
    return (← routeTo follows path).map (base, ·)
  match found with
  | [] => fail ("can't cd to " ++ wanted.getD "")
  | (base, place, route) :: _ =>
    assign "OLDPWD" (pathOf (← self).route) true
    modifySelf ({ · with directory := place, route })
    assign "PWD" (pathOf route) true
    if goesBack ∨ base ≠ "" then print (pathOf route ++ "\n")
    return 0

/-! ## Leaving -/

/-- Ends the shell. -/
def exit (words : List String) : Effect Nat := do
  let p ← self
  let status ← match words with
    | [] => pure (p.finalStatus.getD p.status)
    | word :: _ => natural word
  setStatus status
  throw .leave

/-- Ends a function. -/
def leaveFunction (words : List String) : Effect Nat := do
  let status ← match words with
    | [] => pure (← self).status
    | word :: _ => natural word
  setStatus status
  throw .return

/-- Leaves loops, or goes on with the next round. -/
def leaveLoops (stop : Nat → Stop) (words : List String) : Effect Nat := do
  let count ← match words with
    | [] => pure 1
    | word :: _ => do
      let n ← natural word
      if n = 0 then fail s!"Illegal number: {word}"
      pure n
  let count := min count (← self).loops
  if count > 0 then
    setStatus 0
    throw (stop count)
  return 0

/-! ## Others -/

/-- Tells what names stand for. -/
def tell (words : List String) : Effect Nat := do
  let statuses ← words.mapM (Lookup.describe · false)
  return statuses.foldl max 0

/-- Looks for programs, or prints those that have been found. -/
def hash (words : List String) : Effect Nat := do
  let (found, names) ← options ['r'] words
  if found ≠ [] then
    modifySelf ({ · with hashed := [] })
    return 0
  if names = [] then
    (← self).hashed.forM fun name => do
      match ← Lookup.programPath name with
      | .ok path => print (path ++ "\n")
      | .error _ => return
    return 0
  let statuses ← names.mapM fun name => do
    match ← Lookup.meaning name with
    | .unknown e =>
      warn s!"{name}: {Lookup.startError e}"
      return 1
    | .program _ =>
      modifySelf fun p => { p with hashed := name :: p.hashed.filter (· ≠ name) }
      return 0
    | _ => return 0
  return statuses.foldl max 0

/-- Tells what the word of a command stands for, in the ways that options ask for. -/
def describe (words : List String) : Effect Nat := do
  let (found, names) ← options ['p', 'v', 'V'] words
  match (found.filter (·.1 ≠ 'p')).getLast?, names with
  | some (c, _), name :: _ => Lookup.describe name (c = 'v')
  | _, _ => return 0

/-- Fails because no job is under the control of the shell. -/
def control (words : List String) : Effect Nat := do
  let (_, words) ← options [] words
  discard (Jobs.jobOf (words.headD "%"))
  fail ("job " ++ words.headD "(null)" ++ " not created under job control")

/-- Prints the times that processes have taken. -/
def times (_ : List String) : Effect Nat := do
  print "0m0.000000s 0m0.000000s\n0m0.000000s 0m0.000000s\n"
  return 0

/-- Prints a limit, or sets it, which changes nothing here. -/
def ulimit (words : List String) : Effect Nat := do
  let (found, words) ← options "HSatfdscmlpnvwr".toList words
  match words with
  | [] =>
    let isStack := (found.filter fun (c, _) => c ∉ ['H', 'S']).getLast?.any (·.1 = 's')
    print (if isStack then "8192\n" else "unlimited\n")
    return 0
  | [word] =>
    if word ≠ "unlimited" ∧ ¬word.all Char.isDigit then fail "bad number"
    return 0
  | _ => fail "too many arguments"

/-- The built-in commands that need not run other commands. -/
def find? (name : String) : Option (List String → Effect Nat) :=
  match name with
  | ":" | "true" => some fun _ => return 0
  | "false" => some fun _ => return 1
  | "[" => some bracket
  | "alias" => some Settings.defineAliases
  | "bg" | "fg" => some control
  | "break" => some (leaveLoops .breakLoops)
  | "cd" | "chdir" => some cd
  | "command" => some describe
  | "continue" => some (leaveLoops .continueLoops)
  | "echo" => some echo
  | "exit" => some exit
  | "export" => some Settings.exportVariables
  | "getopts" => some Reading.getopts
  | "hash" => some hash
  | "jobs" => some Jobs.list
  | "kill" => some Jobs.kill
  | "local" => some Settings.makeLocal
  | "printf" => some printf
  | "pwd" => some pwd
  | "read" => some Reading.read
  | "readonly" => some Settings.protect
  | "return" => some leaveFunction
  | "set" => some Settings.set
  | "shift" => some Settings.shift
  | "test" => some test
  | "times" => some times
  | "trap" => some Jobs.trap
  | "type" => some tell
  | "ulimit" => some ulimit
  | "umask" => some Settings.umask
  | "unalias" => some Settings.removeAliases
  | "unset" => some Settings.forget
  | "wait" => some Jobs.wait
  | _ => none

end Builtins

end FileScript.Shell
