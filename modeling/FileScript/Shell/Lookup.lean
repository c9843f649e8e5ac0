import FileScript.Shell.Grammar
import FileScript.Shell.State

/-!
# Finding commands

What the name of a command stands for: a function, a command that is built into the shell, or a
program in one of the directories that a variable lists.
-/

namespace FileScript.Shell

namespace Lookup

/-- The commands that are built into the shell, without those that no function can replace. -/
def ordinaryNames : List String :=
  ["alias", "bg", "cd", "chdir", "command", "echo", "false", "fg", "getopts", "hash", "jobs",
    "kill", "printf", "pwd", "read", "test", "true", "type", "ulimit", "umask", "unalias", "wait",
    "["]

/-- Whether a name belongs to a built-in command that no function can replace. -/
def isReserved (name : String) : Bool := name ∈ Reader.reservedNames

/-- Whether a name belongs to a built-in command. -/
def isBuiltin (name : String) : Bool := isReserved name || name ∈ ordinaryNames

/-- What a name stands for. -/
inductive Meaning where
  | function (line : Nat) (body : Command)
  | builtin
  /-- A program at a path. -/
  | program (path : String)
  /-- Nothing, and why no program is found. -/
  | unknown (e : FolderError)

/-- The directories in which programs are usually looked for. -/
def usualPath : String := "/usr/local/sbin:/usr/local/bin:/usr/sbin:/usr/bin:/sbin:/bin"

/-- The paths at which a program is looked for. -/
def programPaths (name : String) : Effect (List String) := do
  let directories := ((← Effect.lookup? "PATH").getD "").splitOn ":"
  return directories.map fun directory => if directory = "" then name else s!"{directory}/{name}"

/-- Why there is no program at a path, if that is so. -/
def executableAt (path : String) : Effect (Option FolderError) := do
  match ← Effect.find path with
  | .ok (place, .file _) =>
    let mode := (← Effect.shared).host.folder.modeOf place
    return if mode &&& 0o111 = 0 then some .denied else none
  | .ok (_, .executable) => return none
  | .ok _ => return some .denied
  | .error e => return some e

/-- The path of the first program among the places at which a program is looked for; or why there is
none. -/
def programPath (name : String) : Effect (Except FolderError String) := do
  let paths ← programPaths name
  let found ← paths.mapM executableAt
  let failures := found.filterMap fun e => e.filter fun e => e ≠ .notFound ∧ e ≠ .notADirectory
  match (paths.zip found).find? (·.2.isNone) with
  | some (path, _) => return .ok path
  | none => return .error (failures.getLastD .notFound)

/-- The path of the program with a name, which can be a path itself; or why it cannot be started. -/
def startable (name : String) : Effect (Except FolderError String) := do
  if name.contains '/' then
    match ← executableAt name with
    | none => return .ok name
    | some e => return .error e
  else programPath name

/-- Why a program cannot be started. -/
def startError (e : FolderError) : String :=
  match e with
  | .notFound | .notADirectory => "not found"
  | _ => e.text

/-- The status of a shell that could not be replaced by a program. -/
def startStatus (e : FolderError) : Nat :=
  match e with
  | .notFound | .notADirectory | .nameTooLong => 127
  | _ => 126

/-- What the name of a command stands for. -/
def meaning (name : String) (functions : Bool := true) : Effect Meaning := do
  if name.contains '/' then return .program name
  let known := (← Effect.self).functions.filter fun _ => functions
  match known.lookup name with
  | some (line, body) => return .function line body
  | none =>
    if isBuiltin name then return .builtin
    match ← programPath name with
    | .ok path => return .program path
    | .error e => return .unknown e

/-- Tells what a name stands for. Fails with a status if it stands for nothing. -/
def describe (name : String) (briefly : Bool) : Effect Nat := do
  let tell (text : String) : Effect Nat := do
    Effect.print text
    return 0
  if (Keyword.ofText? name).isSome then
    tell (if briefly then s!"{name}\n" else s!"{name} is a shell keyword\n")
  else match (← Effect.self).aliases.lookup name with
    | some value =>
      tell (if briefly then s!"alias {name}={Effect.quoted value}\n"
        else s!"{name} is an alias for {value}\n")
    | none =>
      match ← meaning name with
      | .function .. =>
        tell (if briefly then s!"{name}\n" else s!"{name} is a shell function\n")
      | .builtin =>
        let special := if isReserved name then "special " else ""
        tell (if briefly then s!"{name}\n" else s!"{name} is a {special}shell builtin\n")
      | .program path =>
        match ← Effect.find path with
        | .ok _ =>
          let how := if name ∈ (← Effect.self).hashed then "a tracked alias for " else ""
          tell (if briefly then s!"{path}\n" else s!"{name} is {how}{path}\n")
        | .error _ =>
          unless briefly do Effect.print s!"{name}: not found\n"
          return 127
      | .unknown _ =>
        unless briefly do Effect.print s!"{name}: not found\n"
        return 127

end Lookup

end FileScript.Shell
