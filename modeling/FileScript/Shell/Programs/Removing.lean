import FileScript.Shell.Programs.Making

/-!
# Removing files

Programs that take files and directories away.
-/

namespace FileScript.Shell

namespace Programs

open Effect

/-! ## Empty directories -/

/-- Removes a directory that is empty, and then those above it if that is asked for. The reason of a
failure is told in two ways. -/
def removeEmpty (call : Call) : (isFirst : Bool) → List String → Effect Nat
  | _, [] => return 0
  | isFirst, path :: above => do
    let failed (reason : String) : Effect Nat := do
      let what := if isFirst then "failed to remove" else "failed to remove directory"
      refuse s!"{what} {Quoting.always path}: {reason}"
    if call.has "verbose" then
      print s!"{(← self).name}: removing directory, {Quoting.always path}\n"
    match ← findEntry path with
    | .error e => failed e.text
    | .ok (place, .directory) =>
      if (Path.components path).getLast? = some "." then return ← failed "Invalid argument"
      if (Path.components path).getLast? = some ".." then
        return ← failed FolderError.notEmpty.text
      if (← shared).host.folder.list place ≠ [] then
        if call.has "ignore-fail-on-non-empty" then return 0
        return ← failed FolderError.notEmpty.text
      removeItem place
      removeEmpty call false above
    | .ok _ => failed FolderError.notADirectory.text

/-- The paths above a path that are written in it, the nearest first. -/
def pathsAbove (path : String) : List String :=
  let paths := (pathsTo path).reverse
  match paths with
  | [] => []
  | _ :: rest => rest

/-- Removes directories that are empty. -/
def rmdir (words : List String) : Effect Nat :=
  called [long "ignore-fail-on-non-empty", flag 'p' "parents", flag 'v' "verbose"] words
    fun call => do
      if call.operands = [] then return ← lacksOperand
      return worst (← call.operands.mapM fun path =>
        removeEmpty call true (path :: if call.has "parents" then pathsAbove path else []))

/-! ## Files and trees -/

/-- Reads an answer from the standard input; tells whether it is yes. -/
def answersYes : Effect Bool := do
  match ← unread 0 with
  | .error _ => return false
  | .ok bytes =>
    let line := (Octets.ofBytes bytes).takeWhile (· ≠ '\n') |>.toString
    passBytes 0 (min bytes.size (line.length + 1))
    return line.startsWith "y" || line.startsWith "Y"

/-- Asks a question; tells whether the answer is yes. -/
def asks (question : String) : Effect Bool := do
  complain s!"{(← self).name}: {question}? "
  answersYes

/-- What an item is called in a question. -/
def itemName : FolderItem → String
  | .file bytes => if bytes.size = 0 then "regular empty file" else "regular file"
  | .directory => "directory"
  | .link _ => "symbolic link"
  | .null | .endless | .input => "character special file"
  | .executable => "regular file"

/-- Removes an item that is no full directory, and tells so if that is asked for. -/
def removeOne (call : Call) (path : String) (place : Place) (item : FolderItem) : Effect Nat := do
  let name := Quoting.always path
  if call.last? ["i", "force", "interactive"] = some "i" then
    unless ← asks s!"remove {itemName item} {name}" do return 0
  removeItem place
  if call.has "verbose" then
    print (match item with
      | .directory => s!"removed directory {name}\n"
      | _ => s!"removed {name}\n")
  return 0

/-- Removes an item with all that is in it. -/
def removeTree (call : Call) : Nat → (path : String) → Place → FolderItem → Effect Nat
  | 0, _, _, _ => return 1
  | fuel + 1, path, place, item => do
    match item with
    | .directory =>
      let names := (← shared).host.folder.list place
      if names ≠ [] ∧ call.last? ["i", "force", "interactive"] = some "i" then
        unless ← asks s!"descend into directory {Quoting.always path}" do return 0
      let statuses ← names.mapM fun name => do
        let place := place ++ [name]
        match (← shared).host.folder.item? place with
        | some item =>
          let separator := if path.endsWith "/" then "" else "/"
          removeTree call fuel (path ++ separator ++ Octets.ofString name) place item
        | none => return 0
      if (← shared).host.folder.list place ≠ [] then return worst statuses
      return max (worst statuses) (← removeOne call path place item)
    | _ => removeOne call path place item

/-- The options of `rm`. -/
def rmOptions : List Known :=
  [flag 'd' "dir", flag 'f' "force", { key := "i", letter := some 'i' },
    { key := "interactive", letter := some 'I' }, long "interactive" .ownValue,
    flag 'r' "recursive", { key := "recursive", letter := some 'R' }, flag 'v' "verbose",
    long "one-file-system", long "no-preserve-root", long "preserve-root" .ownValue]

/-- Removes what is at a path. -/
def removeAt (call : Call) (path : String) : Effect Nat := do
  let name := Quoting.always path
  let failed (e : FolderError) : Effect Nat := refuse s!"cannot remove {name}: {e.text}"
  match ← findEntry path with
  | .error e =>
    if call.has "force" ∧ (e = .notFound ∨ e = .notADirectory) then return 0
    failed e
  | .ok (place, .directory) =>
    let last := (Path.components path).getLast?
    if call.has "recursive" then
      if last = some "." ∨ last = some ".." then
        return ← refuse s!"refusing to remove '.' or '..' directory: skipping {name}"
      if place = [] then
        tell s!"it is dangerous to operate recursively on {name}"
        return ← refuse "use --no-preserve-root to override this failsafe"
      removeTree call (← directoryDepth) path place .directory
    else if !call.has "dir" then failed .isADirectory
    else if (← shared).host.folder.list place ≠ [] then failed .notEmpty
    else removeOne call path place .directory
  | .ok (place, item) => removeOne call path place item

/-- Removes files and, if asked to, directories with all that is in them. -/
def rm (words : List String) : Effect Nat :=
  called rmOptions words fun call => do
    if call.operands = [] then
      return ← if call.has "force" then return 0 else lacksOperand
    let count := call.operands.length
    let isOnce := call.last? ["i", "force", "interactive"] = some "interactive"
    if isOnce ∧ (call.has "recursive" ∨ count > 3) then
      let what := if count = 1 then "1 argument" else s!"{count} arguments"
      let how := if call.has "recursive" then " recursively" else ""
      unless ← asks s!"remove {what}{how}" do return 0
    return worst (← call.operands.mapM (removeAt call))

/-- Removes a file. -/
def unlink (words : List String) : Effect Nat :=
  called [] words fun call => do
    match call.operands with
    | [] => lacksOperand
    | _ :: extra :: _ => hasExtra extra
    | [path] =>
      match ← findEntry path with
      | .ok (place, item) =>
        if let .directory := item then
          return ← refuse s!"cannot unlink {Quoting.always path}: {FolderError.isADirectory.text}"
        removeItem place
        return 0
      | .error e => refuse s!"cannot unlink {Quoting.always path}: {e.text}"

end Programs

end FileScript.Shell
