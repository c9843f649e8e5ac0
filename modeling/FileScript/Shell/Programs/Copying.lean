import FileScript.Shell.Programs.Removing

/-!
# Copying and moving files

Programs that copy files, move them and make links to them. What they make has the name of its
source if the target is a directory.
-/

namespace FileScript.Shell

namespace Programs

open Effect

/-- What is done with the sources. -/
inductive Transfer where
  | copy
  | move
  | hardLink
  | softLink
  deriving DecidableEq, Repr, Inhabited

/-- A call that copies, moves or links, with what it has made so far. -/
structure Transferring where
  transfer : Transfer
  call : Call
  made : List Place := []

namespace Transferring

/-- Whether directories are copied with all that is in them. -/
def recursive (t : Transferring) : Bool := t.call.has "recursive" || t.transfer = .move

/-- Whether a link is copied as a link. -/
def keepsLinks (t : Transferring) : Bool :=
  t.transfer ≠ .copy || t.call.has "no-dereference" ||
    (t.call.has "recursive" && !t.call.has "dereference")

/-- The item to which the path of a source leads. -/
def source (t : Transferring) (path : String) : Effect (Except FolderError (Place × FolderItem)) :=
  if t.keepsLinks then findEntry path else find path

/-- Tells what has been done, if that is asked for. -/
def report (t : Transferring) (text : String) : Effect Unit := do
  if t.call.has "verbose" then print (text ++ "\n")

end Transferring

/-- The path of an item in a directory. -/
def pathIn (directory name : String) : String :=
  if directory.endsWith "/" then directory ++ name else directory ++ "/" ++ name

/-- Whether an item is a directory. -/
def isDirectory : FolderItem → Bool
  | .directory => true
  | _ => false

/-- The mode of a copy: that of the source, less the mask. -/
def copiedMode (folder : Folder) (place : Place) (mask : Nat) (exact : Bool) : Nat :=
  let mode := folder.modeOf place
  if exact then mode else (mode &&& 0o777) ^^^ (mode &&& 0o777 &&& mask)

/-- Copies what is at a place to another one, with all that is in it. -/
def copyTree (t : Transferring) : Nat → (source target : String) → Place → Place → FolderItem →
    Effect Nat
  | 0, _, _, _, _, _ => return 1
  | fuel + 1, source, target, place, goal, item => do
    let folder := (← shared).host.folder
    let exact := t.call.has "preserve" || t.call.has "archive"
    let mode := copiedMode folder place (← self).mask exact
    let isNew := (folder.item? goal).isNone
    let shown := s!"{Quoting.always source} -> {Quoting.always target}"
    let keepTime : Effect Unit :=
      if exact then
        modifyFolder (·.modifyDetails goal ({ · with time := (folder.detailsOf place).time }))
      else return
    match item with
    | .directory =>
      if isNew then
        makeDirectory goal none
        modifyFolder (·.modifyDetails goal ({ · with mode := some mode }))
        t.report shown
      let statuses ← (folder.list place).mapM fun name => do
        match folder.item? (place ++ [name]) with
        | none => return 0
        | some item =>
          let own := Octets.ofString name
          match item, (← shared).host.folder.item? (goal ++ [name]) with
          | .directory, some (.file _) =>
            refuse (s!"cannot overwrite non-directory {Quoting.always (pathIn target own)} " ++
              s!"with directory {Quoting.always (pathIn source own)}")
          | .file _, some .directory =>
            let goal := Quoting.always (pathIn target own)
            refuse s!"cannot overwrite directory {goal} with non-directory"
          | _, _ =>
            copyTree t fuel (pathIn source own) (pathIn target own) (place ++ [name])
              (goal ++ [name]) item
      keepTime
      return worst statuses
    | _ =>
      putItem goal item
      if isNew then modifyFolder (·.modifyDetails goal ({ · with mode := some mode }))
      keepTime
      t.report shown
      return 0

/-- Why something cannot be made at a path. -/
def makingError (path : String) (item : FolderItem) (e : FolderError) : FolderError :=
  if e = .notFound ∧ path.endsWith "/" ∧ !isDirectory item then .notADirectory else e

/-- The place at which a path makes an item, or why it makes none. A slash at the end asks for a
directory. -/
def goalOf (path : String) (item : FolderItem) : Effect (Except FolderError Place) := do
  match ← findNew path with
  | .error e => return .error e
  | .ok place =>
    if path.endsWith "/" ∧ !isDirectory item then return .error .notADirectory
    return .ok place

/-- What hinders a copy or a move onto an item that is there already: its message, or the status if
it is left out silently. -/
def hindrance? (t : Transferring) (source target : String) (place goal : Place)
    (item there : FolderItem) : Effect (Option (String ⊕ Nat)) := do
  let shownSource := Quoting.always source
  let shownTarget := Quoting.always target
  let folder := (← shared).host.folder
  let refused (text : String) : Effect (Option (String ⊕ Nat)) := return some (.inl text)
  if folder.keptAt place = folder.keptAt goal then
    return ← refused s!"{shownSource} and {shownTarget} are the same file"
  if isDirectory there ∧ !isDirectory item then
    return ← refused s!"cannot overwrite directory {shownTarget} with non-directory"
  if isDirectory item ∧ !isDirectory there then
    return ← refused s!"cannot overwrite non-directory {shownTarget} with directory {shownSource}"
  if goal ∈ t.made ∧ !isDirectory there then
    return ← refused s!"will not overwrite just-created {shownTarget} with {shownSource}"
  if isDirectory there ∧ t.transfer = .copy then return none
  match t.call.last? ["no-clobber", "interactive", "force"] with
  | some "no-clobber" =>
    return some (.inr 0)
  | some "interactive" =>
    return if ← asks s!"overwrite {shownTarget}" then none else some (.inr 0)
  | _ =>
    let older := (folder.detailsOf place).time ≤ (folder.detailsOf goal).time
    if t.call.has "update" ∧ older then return some (.inr 0)
    return none

/-- Copies what is at a path to another path; tells the status and the place of the copy. -/
def copyOne (t : Transferring) (source target : String) : Effect (Nat × List Place) := do
  let failed (text : String) : Effect (Nat × List Place) := return (← refuse text, [])
  let shownTarget := Quoting.always target
  match ← t.source source with
  | .error e => failed s!"cannot stat {Quoting.always source}: {e.text}"
  | .ok (place, item) =>
    if isDirectory item ∧ !t.recursive then
      return ← failed s!"-r not specified; omitting directory {Quoting.always source}"
    let into (goal : Place) : Effect (Nat × List Place) := do
      if isDirectory item ∧ place.isPrefixOf goal then
        return ← failed
          s!"cannot copy a directory, {Quoting.always source}, into itself, {shownTarget}"
      return (← copyTree t (← directoryDepth) source target place goal item, [goal])
    match ← find target with
    | .ok (goal, there) =>
      match ← hindrance? t source target place goal item there with
      | some (.inl text) => failed text
      | some (.inr status) => return (status, [])
      | none => into goal
    | .error .notADirectory =>
      failed s!"cannot stat {shownTarget}: {FolderError.notADirectory.text}"
    | .error e =>
      match ← goalOf target item with
      | .ok goal => into goal
      | .error _ =>
        let what := if isDirectory item then "directory" else "regular file"
        failed s!"cannot create {what} {shownTarget}: {(makingError target item e).text}"

/-- Moves what is at a path to another path. -/
def moveOne (t : Transferring) (source target : String) : Effect (Nat × List Place) := do
  let failed (text : String) : Effect (Nat × List Place) := return (← refuse text, [])
  let shownSource := Quoting.always source
  let shownTarget := Quoting.always target
  match ← findEntry source with
  | .error e => failed s!"cannot stat {shownSource}: {e.text}"
  | .ok (place, item) =>
    let moveTo (goal : Place) : Effect (Nat × List Place) := do
      if (Path.components source).getLast?.any fun name => name = "." || name = ".." then
        return ← failed s!"cannot move {shownSource} to {shownTarget}: Device or resource busy"
      if isDirectory item ∧ place.isPrefixOf goal ∧ place ≠ goal then
        return ← failed
          s!"cannot move {shownSource} to a subdirectory of itself, {shownTarget}"
      modifyFolder (·.move place goal)
      touchPlace place.dropLast
      touchPlace goal.dropLast
      t.report s!"renamed {shownSource} -> {shownTarget}"
      return (0, [goal])
    match ← findEntry target with
    | .ok (goal, there) =>
      match ← hindrance? t source target place goal item there with
      | some (.inl text) => failed text
      | some (.inr status) => return (status, [])
      | none =>
        if isDirectory there ∧ (← shared).host.folder.list goal ≠ [] ∧
            !place.isPrefixOf goal then
          return ← failed
            s!"cannot move {shownSource} to {shownTarget}: {FolderError.notEmpty.text}"
        moveTo goal
    | .error .notADirectory =>
      failed s!"cannot stat {shownTarget}: {FolderError.notADirectory.text}"
    | .error e =>
      match ← goalOf target item with
      | .ok goal => moveTo goal
      | .error _ =>
        failed s!"cannot move {shownSource} to {shownTarget}: {(makingError target item e).text}"

/-- Makes a link at a path to another path. -/
def linkOne (t : Transferring) (source target : String) : Effect (Nat × List Place) := do
  let failed (text : String) : Effect (Nat × List Place) := return (← refuse text, [])
  let isSoft := t.transfer = .softLink
  let shownTarget := Quoting.always target
  let kind := if isSoft then "symbolic" else "hard"
  let found ← if isSoft then pure (.ok ([], .link (Octets.toString source))) else findEntry source
  let (place, item) ← match found with
    | .ok (_, .directory) =>
      return ← failed s!"{Quoting.ifNeeded source}: hard link not allowed for directory"
    | .ok found => pure found
    | .error e => return ← failed s!"failed to access {Quoting.always source}: {e.text}"
  let make (goal : Place) : Effect (Nat × List Place) := do
    match item with
    | .file _ =>
      modifyFolder (·.addName place goal)
      touchPlace goal.dropLast
    | _ => putItem goal item
    t.report (shownTarget ++ (if isSoft then " -> " else " => ") ++ Quoting.always source)
    return (0, [goal])
  match ← findEntry target with
  | .ok (goal, there) =>
    if t.call.has "force" ∧ !isDirectory there then
      if place = goal then
        return ← failed s!"{Quoting.always source} and {shownTarget} are the same file"
      removeItem goal
      make goal
    else failed s!"failed to create {kind} link {shownTarget}: {FolderError.alreadyThere.text}"
  | .error e =>
    match ← goalOf target item with
    | .ok goal => make goal
    | .error _ =>
      let how := if isSoft then "" else s!" => {Quoting.always source}"
      failed s!"failed to create {kind} link {shownTarget}{how}: {e.text}"

/-- Does with one source what a call asks for. -/
def transferOne (t : Transferring) : (source target : String) → Effect (Nat × List Place) :=
  match t.transfer with
  | .copy => copyOne t
  | .move => moveOne t
  | .hardLink | .softLink => linkOne t

/-- Puts sources into a directory. A source that is given twice counts once. -/
def transferInto (t : Transferring) (directory : String) : (seen : List String) → List String →
    Effect Nat
  | _, [] => return 0
  | seen, source :: rest => do
    if t.transfer = .copy ∧ source ∈ seen then
      let what ← match ← t.source source with
        | .ok (_, .directory) => pure "directory"
        | _ => pure "file"
      tell s!"warning: source {what} {Quoting.always source} specified more than once"
      transferInto t directory seen rest
    else
      let target := pathIn directory (lastName source)
      let target := if lastName source = "." ∨ lastName source = ".." then directory else target
      let (status, made) ← transferOne t source target
      let t := { t with made := made ++ t.made }
      return max status (← transferInto t directory (source :: seen) rest)

/-- Whether a path leads to a directory. -/
def leadsToDirectory (path : String) (follows : Bool := true) : Effect Bool := do
  match ← if follows then find path else findEntry path with
  | .ok (_, .directory) => return true
  | _ => return false

/-- Copies, moves or links the sources of a call to its target. -/
def transferAll (t : Transferring) : Effect Nat := do
  let paths := t.call.operands
  match t.call.value? "target-directory", paths with
  | _, [] => misused "missing file operand"
  | some directory, _ =>
    match ← find directory with
    | .ok (_, .directory) => transferInto t directory [] paths
    | .ok _ =>
      refuse s!"target directory {Quoting.always directory}: {FolderError.notADirectory.text}"
    | .error e => refuse s!"target directory {Quoting.always directory}: {e.text}"
  | none, [path] =>
    if t.transfer = .hardLink ∨ t.transfer = .softLink then transferInto t "." [] [path]
    else misused s!"missing destination file operand after {Quoting.always path}"
  | none, [source, target] =>
    let follows := !(t.call.has "no-dereference" && t.transfer ≠ .copy)
    if !t.call.has "no-target-directory" ∧ (← leadsToDirectory target follows) then
      transferInto t target [] [source]
    else return (← transferOne t source target).1
  | none, paths =>
    if t.call.has "no-target-directory" then
      return ← misused ("extra operand " ++ Quoting.always (paths[2]?.getD ""))
    let directory := paths.getLastD ""
    match ← find directory with
    | .ok (_, .directory) => transferInto t directory [] paths.dropLast
    | .ok _ => refuse s!"target {Quoting.always directory}: {FolderError.notADirectory.text}"
    | .error e => refuse s!"target {Quoting.always directory}: {e.text}"

/-- The options of programs that copy, move and link. -/
def transferOptions : List Known :=
  [flag 'f' "force", flag 'i' "interactive", flag 'v' "verbose", flag 'n' "no-clobber",
    valued 't' "target-directory", flag 'T' "no-target-directory", flag 'u' "update",
    flag 'b' "backup",
    valued 'S' "suffix"]

/-- Copies files. -/
def cp (words : List String) : Effect Nat :=
  let known := [flag 'a' "archive", flag 'r' "recursive",
    { key := "recursive", letter := some 'R' }, flag 'd', flag 'l' "link", flag 's' "symbolic-link",
    flag 'L' "dereference", flag 'P' "no-dereference", flag 'H', flag 'p', flag 'x',
    long "preserve" .ownValue, also "p" "attributes-only"] ++ transferOptions
  called known words fun call => do
    let extra := (if call.has "archive" then [("recursive", ""), ("no-dereference", "")] else []) ++
      (if call.has "d" then [("no-dereference", "")] else []) ++
      (if call.has "p" then [("preserve", "")] else [])
    let call := { call with options := call.options ++ extra }
    let transfer : Transfer :=
      if call.has "symbolic-link" then .softLink else if call.has "link" then .hardLink else .copy
    transferAll { transfer, call }

/-- Moves files. -/
def mv (words : List String) : Effect Nat :=
  called (long "strip-trailing-slashes" :: transferOptions) words fun call =>
    transferAll { transfer := .move, call }

/-- Makes links. -/
def ln (words : List String) : Effect Nat :=
  let known := [flag 's' "symbolic", flag 'f' "force", flag 'v' "verbose",
    flag 'n' "no-dereference", flag 'i' "interactive", flag 'r' "relative",
    valued 't' "target-directory", flag 'T' "no-target-directory", flag 'L' "logical",
    flag 'P' "physical", flag 'b' "backup", valued 'S' "suffix", flag 'd' "directory", flag 'F']
  called known words fun call =>
    transferAll { transfer := if call.has "symbolic" then .softLink else .hardLink, call }

/-- Makes a link to a file. -/
def link (words : List String) : Effect Nat :=
  called [] words fun call => do
    match call.operands with
    | [] => lacksOperand
    | [path] => misused s!"missing operand after {Quoting.value path}"
    | [source, target] =>
      match ← findEntry source, ← findEntry target with
      | .error e, _ =>
        refuse s!"cannot create link {Quoting.always target} to {Quoting.always source}: {e.text}"
      | .ok _, .ok _ =>
        refuse (s!"cannot create link {Quoting.always target} to {Quoting.always source}: " ++
          FolderError.alreadyThere.text)
      | .ok _, .error _ => return (← linkOne { transfer := .hardLink, call } source target).1
    | _ :: _ :: extra :: _ => hasExtra extra

end Programs

end FileScript.Shell
