import FileScript.Shell.Programs.Basic

/-!
# Names of files

Programs that take paths apart, and that follow links.
-/

namespace FileScript.Shell

namespace Programs

open Effect

/-- The last name in a path. -/
def lastName (path : String) : String :=
  if path ≠ "" ∧ path.all (· = '/') then "/" else (Path.components path).getLastD ""

/-- A path without the slashes at its end. -/
def withoutSlashes (path : List Char) : List Char := (path.reverse.dropWhile (· = '/')).reverse

/-- What stands before the last name in a path. -/
def pathAbove (path : String) : String :=
  let text := withoutSlashes path.toList
  let above := withoutSlashes (text.take (text.length - (lastName path).length))
  if above ≠ [] then String.ofList above else if path.startsWith "/" then "/" else "."

/-- The character at the end of each line that a call prints. -/
def lineEnd (call : Call) : String := if call.has "zero" then "\x00" else "\n"

/-- Prints the last names in paths, without an ending if one is given. -/
def basename (words : List String) : Effect Nat :=
  let act (call : Call) : Effect Nat := do
    let several := call.has "multiple" || call.has "suffix"
    let short (name ending : String) : String :=
      if ending ≠ "" ∧ name ≠ ending ∧ name.endsWith ending then
        String.ofList (name.toList.take (name.length - ending.length))
      else name
    match call.operands with
    | [] => lacksOperand
    | path :: rest =>
      if let (false, _ :: extra :: _) := (several, rest) then return ← hasExtra extra
      let ending := if several then (call.value? "suffix").getD "" else rest.headD ""
      let paths := if several then call.operands else [path]
      print (String.join (paths.map fun path => short (lastName path) ending ++ lineEnd call))
      return 0
  called [flag 'a' "multiple", valued 's' "suffix", flag 'z' "zero"] words act 1 true

/-- Prints what stands before the last name in each path. -/
def dirname (words : List String) : Effect Nat :=
  let act (call : Call) : Effect Nat := do
    if call.operands = [] then return ← lacksOperand
    print (String.join (call.operands.map fun path => pathAbove path ++ lineEnd call))
    return 0
  called [flag 'z' "zero"] words act 1 true

/-- How much of a path has to be there. -/
inductive Presence where
  | all
  | allButLast
  | nothing
  deriving DecidableEq, Repr, Inhabited

/-- The path without links that leads to the same place. -/
def canonical (presence : Presence) (path : String) : Effect (Except FolderError String) := do
  let directory := (← self).directory
  let lexical : Place :=
    let names := Path.components (Octets.toString path)
    Folder.descend (if path.startsWith "/" then [] else directory) names
  match ← find path with
  | .ok (place, _) => return .ok (pathOf place)
  | .error e =>
    match presence with
    | .all => return .error e
    | .nothing => return .ok (if path = "" then path else pathOf lexical)
    | .allButLast =>
      if e ≠ .notFound ∨ path = "" then return .error e
      match (← shared).host.folder.findNew directory (Octets.toString path) with
      | .ok place => return .ok (pathOf place)
      | .error e => return .error e

/-- How much has to be there of the paths of a call. -/
def presenceOf (call : Call) (usual : Presence) : Presence :=
  match call.last? ["canonicalize-existing", "canonicalize-missing", "canonicalize"] with
  | some "canonicalize-existing" => .all
  | some "canonicalize-missing" => .nothing
  | some _ => .allButLast
  | none => usual

/-- The options that say how much of a path has to be there. -/
def presenceOptions : List Known :=
  [flag 'e' "canonicalize-existing", flag 'm' "canonicalize-missing", flag 'z' "zero",
    flag 'q' "quiet"]

/-- Prints where links lead. -/
def readlink (words : List String) : Effect Nat :=
  called (presenceOptions ++ [flag 'f' "canonicalize", flag 'n' "no-newline",
      { key := "quiet", letter := some 's', name := "silent" }, flag 'v' "verbose"]) words
    fun call => do
      if call.operands = [] then return ← lacksOperand
      let follows := ["canonicalize-existing", "canonicalize-missing", "canonicalize"].any call.has
      let ending :=
        if call.has "no-newline" ∧ call.operands.length = 1 then "" else lineEnd call
      let statuses ← call.operands.mapM fun path => do
        let failed (reason : String) : Effect Nat := do
          if call.has "verbose" then tell s!"{Quoting.ifNeeded path}: {reason}"
          return 1
        let found (text : String) : Effect Nat := do
          print (text ++ ending)
          return 0
        if follows then
          match ← canonical (presenceOf call .all) path with
          | .ok text => found text
          | .error e => failed e.text
        else match ← findEntry path with
          | .ok (_, .link target) => found (Octets.ofString target)
          | .ok _ => failed "Invalid argument"
          | .error e => failed e.text
      return worst statuses

/-- Prints the paths without links that lead to the same places. -/
def realpath (words : List String) : Effect Nat :=
  called (presenceOptions ++ [flag 's' "strip", also "strip" "no-symlinks", flag 'L' "logical",
      flag 'P' "physical", long "relative-to" .value, long "relative-base" .value]) words
    fun call => do
      if call.operands = [] then return ← lacksOperand
      let statuses ← call.operands.mapM fun path => do
        match ← canonical (presenceOf call .allButLast) path with
        | .ok text =>
          print (text ++ lineEnd call)
          return 0
        | .error e =>
          unless call.has "quiet" do tell s!"{Quoting.ifNeeded path}: {e.text}"
          return 1
      return worst statuses

end Programs

end FileScript.Shell
