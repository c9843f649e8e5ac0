import FileScript.Shell.Finding.Reader
import FileScript.Shell.Programs.Listing
import FileScript.Shell.Programs.Removing
import FileScript.Shell.Programs.Running

/-!
# Searching directories

A search goes through directories and decides a condition on each file in them. What the condition
says to do is done on the way: files are printed or removed, and commands are carried out for them.
-/

namespace FileScript.Shell

namespace Programs

open Effect
open FileScript.Shell.Finding (Action Condition Errand NamePart Part Plan Test)

/-- A file that a search has come to. -/
structure Found where
  path : String
  /-- The path at which the search has started. -/
  start : String
  depth : Nat := 0
  place : Place
  item : FolderItem

namespace Found

/-- The file as an entry of a list. -/
def entry (f : Found) : ListEntry := { name := f.path, place := f.place, item := f.item }

/-- The last name of a path, with a slash if it ends with one. -/
def baseOf (path : String) : String :=
  let bare := withoutSlashes path.toList
  if bare = [] then if path = "" then "" else "/"
  else
    let name := String.ofList (bare.reverse.takeWhile (· ≠ '/')).reverse
    if path.endsWith "/" then name ++ "/" else name

/-- The last name of the path, with a slash if it ends with one. -/
def base (f : Found) : String := baseOf f.path

/-- The path without its last name. The slashes at the end of a single character stay. -/
def above (f : Found) : String :=
  let bare := withoutSlashes f.path.toList
  let path := if bare.length > 1 then bare else f.path.toList
  let rest := path.reverse.dropWhile (· ≠ '/')
  if rest = [] then "." else String.ofList rest.tail.reverse

/-- The part of the path behind the one at which the search has started. -/
def below (f : Found) : String :=
  let rest := f.path.toList.drop f.start.length
  String.ofList (match rest with
    | '/' :: more => more
    | _ => rest)

/-- The letter for the kind of an item. -/
def letterOf : FolderItem → Char
  | .directory => 'd'
  | .link _ => 'l'
  | .null | .endless => 'c'
  | .input => 'p'
  | .file _ | .executable => 'f'

/-- The user to whom a file belongs, by a name or a number. -/
def owner (folder : Folder) (f : Found) : String :=
  let number := (folder.detailsOf f.place).owner
  (Accounts.userName? number).getD (toString number)

/-- The group to which a file belongs, by a name or a number. -/
def group (folder : Folder) (f : Found) : String :=
  let number := (folder.detailsOf f.place).group
  (Accounts.groupName? number).getD (toString number)

/-- The letter for the kind of what a file leads to. -/
def goalLetter (f : Found) : Effect Char := do
  match f.item, ← find f.path with
  | .link _, .ok (_, item) => return letterOf item
  | .link _, .error .tooManyLinks => return 'L'
  | .link _, .error _ => return 'N'
  | item, _ => return letterOf item

end Found

/-! ## Output -/

/-- The fraction of a second that belongs to a date. -/
def longFraction (d : Calendar.Date) : String := "." ++ Octets.padded 9 d.nanosecond ++ "0"

/-- A time in the form that a letter stands for. -/
def timeText (time : Int) (letter : Char) : String :=
  let d := Calendar.Date.ofTime time
  match letter with
  | ' ' => ""
  | '@' => d.inFormat "%s" ++ longFraction d
  | 'S' | 'T' | 'X' => d.inFormat (if letter = 'S' then "%S" else "%T") ++ longFraction d
  | '+' => d.inFormat "%Y-%m-%d+%H:%M:%S" ++ longFraction d
  | 'N' | 'q' => String.ofList ['%', letter]
  | _ => d.inFormat (String.ofList ['%', letter])

/-- A line that tells all of a file. -/
def foundLine (folder : Folder) (now : Int) (f : Found) : String :=
  let right (width : Nat) (text : String) : String := "".pushn ' ' (width - text.length) ++ text
  let e := f.entry
  let time := (folder.detailsOf f.place).time
  let target := match f.item with
    | .link target => " -> " ++ escapedName [' '] (Octets.ofString target)
    | _ => ""
  let names := right 3 (toString (e.nameCount folder))
  right 9 "1" ++ " " ++ right 6 (toString e.blocks) ++ " " ++ statValue folder f.path e 'A' ++
    " " ++ names ++ " " ++ padRight 8 (f.owner folder) ++ " " ++
    padRight 8 (f.group folder) ++ " " ++ right 8 (toString e.size) ++ " " ++
    shownDate ("%b %e %H:%M", "%b %e  %Y") now time ++ " " ++ escapedName [' '] f.path ++
    target ++ "\n"

/-- What a letter in a format stands for. -/
def foundValue (d : Format.Directive) (letter : Char) (f : Found) : Effect String := do
  let folder := (← shared).host.folder
  let e := f.entry
  let time := (folder.detailsOf f.place).time
  let text (value : String) : String :=
    let value := match d.precision with
      | some n => (value.take n).toString
      | none => value
    d.align value
  match letter with
  | 'a' | 'c' | 't' =>
    let date := Calendar.Date.ofTime time
    return text (date.inFormat "%a %b %e %H:%M:%S" ++ longFraction date ++ date.inFormat " %Y")
  | 'b' => return text (toString (e.blocks * 2))
  | 'd' => return d.signed f.depth
  | 'f' => return text f.base
  | 'F' => return text "overlay"
  | 'g' => return text (f.group folder)
  | 'G' => return text (statValue folder f.path e 'g')
  | 'h' => return text f.above
  | 'H' => return text f.start
  | 'k' => return text (toString e.blocks)
  | 'l' =>
    match f.item with
    | .link target => return text (Octets.ofString target)
    | _ => return text ""
  | 'm' => return d.unsigned 'o' (folder.modeOf f.place)
  | 'M' => return text (statValue folder f.path e 'A')
  | 'n' => return text (toString (e.nameCount folder))
  | 'p' => return text f.path
  | 'P' => return text f.below
  | 's' => return text (toString e.size)
  | 'S' =>
    let held := e.blocks * 1024
    let ratio : Binary :=
      if e.size = 0 then if held = 0 then .ofFraction false 1 1 else { infinite := true }
      else .ofFraction false held e.size
    return d.fraction 'g' ratio
  | 'u' => return text (f.owner folder)
  | 'U' => return text (statValue folder f.path e 'u')
  | 'y' => return text (Found.letterOf f.item).toString
  | 'Y' => return text (← f.goalLetter).toString
  | 'Z' => return text "?"
  | _ => return text "1"

/-- What parts of a format print of a file. -/
def foundText (f : Found) : List Part → Effect String
  | [] | .stop :: _ => return ""
  | .text text :: rest => return text ++ (← foundText f rest)
  | .line :: rest => do
    let line := foundLine (← shared).host.folder (← shared).host.clock f
    return line ++ (← foundText f rest)
  | .time d letter :: rest => do
    let text := timeText ((← shared).host.folder.detailsOf f.place).time letter
    let text := match d.precision with
      | some n => (text.take n).toString
      | none => text
    return d.align text ++ (← foundText f rest)
  | .value d letter :: rest => do
    let text ← foundValue d letter f
    return text ++ (← foundText f rest)

/-! ## Tests -/

/-- One character for the capital and the small form of a letter. -/
def sameLetter (c : Char) : Char :=
  let other := LinePattern.otherCase c
  if other.toNat < c.toNat then other else c

/-- Whether a pattern fits a whole text. -/
def patternFits (folds : Bool) (pattern text : String) : Bool :=
  let plain (text : String) : String :=
    let text := Octets.toString text
    if folds then text.map sameLetter else text
  Pattern.fits (Pattern.ofText (plain pattern)) (plain text).toList

/-- Whether a pattern matches a whole text. -/
def matchesWhole (e : LinePattern.Expression) (folds : Bool) (text : String) : Bool :=
  let start := LinePattern.Spot.ofText (Octets.pieces text)
  (LinePattern.ends { foldsCase := folds } e.looksBack e start).any fun stop => stop.rest = []

/-- Decides a test. -/
def testHolds (p : Plan) (f : Found) (t : Test) : Effect Bool := do
  let folder := (← shared).host.folder
  let details := folder.detailsOf f.place
  match t with
  | .constant holds => return holds
  | .named part folds pattern =>
    match part, f.item with
    | .base, _ =>
      let name := f.base
      let name := if name.length > 1 ∧ name.endsWith "/" then (name.dropEnd 1).toString else name
      return patternFits folds pattern name
    | .path, _ => return patternFits folds pattern f.path
    | .target, .link target => return patternFits folds pattern (Octets.ofString target)
    | .target, _ => return false
  | .described e folds => return matchesWhole e folds f.path
  | .kind letters other =>
    if !other then return Found.letterOf f.item ∈ letters
    else if p.follows ∨ p.followsStarts ∧ f.depth = 0 then
      match ← findEntry f.path with
      | .ok (_, item) => return Found.letterOf item ∈ letters
      | .error _ => return false
    else
      let letter ← f.goalLetter
      return (if letter = 'N' ∨ letter = 'L' then 'l' else letter) ∈ letters
  | .size unit bound => return bound.admits ((f.entry.size + unit - 1) / unit)
  | .names bound => return bound.admits (f.entry.nameCount folder)
  | .number bound => return bound.admits 1
  | .owner bound => return bound.admits details.owner
  | .group bound => return bound.admits details.group
  | .ownerless => return (Accounts.userName? details.owner).isNone
  | .groupless => return (Accounts.groupName? details.group).isNone
  | .changed bound => return bound.admits details.time
  | .idle bound => return bound.admits 0
  | .permissions agreement file directory =>
    let bits := match f.item with
      | .directory => directory
      | _ => file
    let mode := folder.modeOf f.place
    match agreement with
    | .exactly => return mode = bits
    | .all => return mode &&& bits = bits
    | .some => return mode &&& bits ≠ 0
  | .empty =>
    match f.item with
    | .file bytes => return bytes.size = 0
    | .directory => return folder.list f.place = []
    | _ => return false
  | .present => return (← find f.path).isOk
  | .executable =>
    match ← find f.path with
    | .ok (_, .directory) | .ok (_, .executable) => return true
    | .ok (place, _) => return folder.modeOf place &&& 0o111 ≠ 0
    | .error _ => return false
  | .same place => return folder.keptAt f.place = folder.keptAt place

/-! ## Commands -/

/-- The files for which a command waits: its number, its words and its directory. -/
structure Gathering where
  number : Nat
  errand : Errand
  directory : Option String := none
  paths : List String
  deriving Repr, Inhabited

/-- What a search keeps in mind. -/
structure Progress where
  status : Nat := 0
  /-- Whether the directory is not gone into. -/
  stays : Bool := false
  finished : Bool := false
  /-- The depth of the file before. -/
  depth : Nat := 0
  gathered : List Gathering := []

/-- Steps of a search. -/
abbrev Seek := StateT Progress Effect

/-- Tells of a failure. -/
def failedOn (text : String) : Seek Unit := do
  tell text
  modify ({ · with status := 1 })

/-- Carries out a command; tells whether it succeeds. -/
def carryOut (start : Start) (directory : Option String) (silent : Bool) (words : List String) :
    Effect Bool := do
  match words with
  | [] => return false
  | name :: rest =>
    let ending ← Jobs.inProcess (do
      if let some path := directory then
        if let .ok (place, _) ← find path then modifySelf ({ · with directory := place })
      if silent then
        connect 0 (some (← newStream { channel := .null, readable := true, writable := false }))
      match ← Lookup.startable name with
      | .ok path => start path name rest
      | .error e =>
        tell s!"{Quoting.value name}: {e.text}"
        setStatus 1
        throw .leave) (return)
    match ending with
    | .exited status => return status = 0
    | .killed signal =>
      tell s!"{Quoting.value name} terminated by signal {signal}"
      return false

/-- The path of a file for a command in its directory. -/
def innerPath (f : Found) : String := if f.base = "/" then "/" else "./" ++ f.base

/-- The path of the directory of a file. -/
def outerPath (f : Found) : String :=
  let bare := withoutSlashes f.path.toList
  if bare = [] then "/"
  else
    let above := withoutSlashes (bare.reverse.dropWhile (· ≠ '/')).reverse
    if above ≠ [] then String.ofList above else if bare.head? = some '/' then "/" else "."

/-- Carries out a command for the files for which it has waited. -/
def finish (start : Start) (g : Gathering) : Seek Unit := do
  unless ← carryOut start g.directory false (g.errand.words ++ g.paths) do
    modify ({ · with status := 1 })

/-- Carries out the commands that have waited. Those inside directories cannot wait as long as
others. -/
def finishAll (start : Start) (all : Bool) : Seek Unit := do
  let (now, later) := (← get).gathered.partition fun g => all || g.errand.inside
  modify ({ · with gathered := later })
  (now.mergeSort fun a b => a.number ≤ b.number).forM (finish start)

/-- Carries out a command for a file, or lets it wait for others. -/
def command (start : Start) (f : Found) (c : Errand) : Seek Bool := do
  let path := if c.inside then innerPath f else f.path
  let directory := if c.inside then some (outerPath f) else none
  match c.together with
  | some number =>
    modify fun s =>
      match s.gathered.find? (·.number = number) with
      | some g =>
        { s with gathered := s.gathered.map fun h =>
            if h.number = number then { g with paths := g.paths ++ [path] } else h }
      | none =>
        { s with gathered := s.gathered ++ [{ number, errand := c, directory, paths := [path] }] }
    return true
  | none =>
    let words := c.words.map fun word => word.replace "\x7b\x7d" path
    if c.asks then
      let name := c.words.headD ""
      complain s!"< {name} ... {f.path} > ? "
      unless ← answersYes do return false
    carryOut start directory c.asks words

/-! ## The search -/

/-- Removes a file. -/
def deleteFound (f : Found) : Seek Bool := do
  let failed (reason : String) : Seek Bool := do
    failedOn s!"cannot delete {Quoting.value f.path}: {reason}"
    return false
  if f.path = "." then return true
  let folder := (← shared).host.folder
  match folder.item? f.place with
  | none => failed FolderError.notFound.text
  | some .directory =>
    if folder.list f.place ≠ [] then failed FolderError.notEmpty.text
    else
      removeItem f.place
      return true
  | some _ =>
    removeItem f.place
    return true

/-- Does something with a file; tells whether that counts as a success. -/
def act (start : Start) (f : Found) (a : Action) : Seek Bool := do
  match a with
  | .print path parts =>
    let text ← foundText f parts
    match path with
    | none => print text
    | some path => let _ ← writeFile path text true
    return true
  | .perform c => command start f c
  | .delete => deleteFound f
  | .prune =>
    modify ({ · with stays := true })
    return true
  | .quit =>
    modify ({ · with finished := true })
    return true

/-- Decides a condition. Once the search is over, nothing more is decided. -/
def decides (start : Start) (p : Plan) (f : Found) : Condition → Seek Bool
  | .test t => testHolds p f t
  | .action a => do if (← get).finished then return true else act start f a
  | .not c => do return !(← decides start p f c)
  | .and a b => do if ← decides start p f a then decides start p f b else return false
  | .or a b => do if ← decides start p f a then return true else decides start p f b
  | .after a b => do
    let _ ← decides start p f a
    decides start p f b

/-- The item that counts for a path: what it leads to, if links do so and there is something. -/
def soughtItem (follows : Bool) (path : String) :
    Effect (Except FolderError (Place × FolderItem)) := do
  if !follows then findEntry path
  else match ← find path with
    | .error .notFound | .error .notADirectory => findEntry path
    | found => return found

/-- Comes to a depth. Commands inside directories do not wait when the depth changes. -/
def comeTo (start : Start) (depth : Nat) : Seek Unit := do
  if (← get).depth ≠ depth then finishAll start false
  modify ({ · with depth })

/-- Looks at a file and at all that is in it. `above` are the directories on the way to it. -/
def search (start : Start) (p : Plan) (c : Condition) : Nat → (above : List (Place × String)) →
    Found → Seek Unit
  | 0, _, _ => return
  | fuel + 1, above, f => do
    if (← get).finished then return
    comeTo start f.depth
    let isDirectory : Bool := match f.item with
      | .directory => true
      | _ => false
    let seen := if isDirectory then above.find? (·.1 = f.place) else none
    if let some (_, other) := seen then
      failedOn (s!"File system loop detected; {Quoting.value f.path} is part of the same file " ++
        s!"system loop as {Quoting.value other}.")
      return
    modify ({ · with stays := false })
    let look : Seek Unit := do
      if p.least ≤ f.depth then discard (decides start p f c)
    unless p.inward do look
    let state ← get
    if state.finished then return
    if isDirectory ∧ p.most.all (f.depth < ·) ∧ (p.inward ∨ !state.stays) then
      let folder := (← shared).host.folder
      if let none := folder.item? f.place then
        failedOn s!"{Quoting.value f.path}: {FolderError.notFound.text}"
        return
      let separator := if f.path.endsWith "/" then "" else "/"
      (folder.list f.place).forM fun name => do
        let path := f.path ++ separator ++ Octets.ofString name
        let own := (folder.item? (f.place ++ [name])).map fun item => (f.place ++ [name], item)
        let found ← match own, p.follows with
          | some (_, .link _), true => soughtItem true path
          | some found, _ => pure (.ok found)
          | none, _ => pure (.error .notFound)
        match found with
        | .ok (place, item) =>
          search start p c fuel ((f.place, f.path) :: above)
            { path, start := f.start, depth := f.depth + 1, place, item }
        | .error e => failedOn s!"{Quoting.value path}: {e.text}"
      comeTo start f.depth
    unless (← get).finished do
      if p.inward then look

/-- Searches from a path on. -/
def searchFrom (start : Start) (p : Plan) (c : Condition) (path : String) : Seek Unit := do
  if (← get).finished then return
  match ← soughtItem p.followsStarts path with
  | .error e => failedOn s!"{Quoting.value path}: {e.text}"
  | .ok (place, item) =>
    search start p c (2 * (← directoryDepth)) [] { path, start := path, place, item }
    finishAll start false

/-- The options before the paths, and what follows them. -/
def leadingOptions : (p : Plan) → List String → Except (List String) (Plan × List String)
  | p, "-H" :: rest => leadingOptions { p with followsStarts := true, follows := false } rest
  | p, "-L" :: rest => leadingOptions { p with followsStarts := true, follows := true } rest
  | p, "-P" :: rest => leadingOptions { p with followsStarts := false, follows := false } rest
  | p, "--" :: rest => .ok (p, rest)
  | _, ["-D"] => .error ["Missing argument after the -D option."]
  | p, "-D" :: _ :: rest => leadingOptions p rest
  | p, word :: rest =>
    match word.toList with
    | ['-', 'O'] => .error ["The -O option must be immediately followed by a decimal integer"]
    | '-' :: 'O' :: c :: _ =>
      if c.isDigit then leadingOptions p rest
      else .error ["Please specify a decimal number immediately after -O"]
    | _ => .ok (p, word :: rest)
  | p, [] => .ok (p, [])

/-- The paths that a file lists, at which a search starts. -/
def listedStarts (list : String) : Seek (List String) := do
  match ← readFile list with
  | .error trouble =>
    failedOn s!"cannot open {Quoting.value list} for reading: {trouble.reason}"
    return []
  | .ok text =>
    let paths := (partsOf '\x00' text).zipIdx
    paths.forM fun (path, i) => do
      if path = "" then failedOn s!"{Quoting.value list}:{i + 1}: invalid zero-length file name"
    return (paths.map (·.1)).filter (· ≠ "")

/-- Searches directories for files on which a condition holds. -/
def findFiles (start : Start) (words : List String) : Effect Nat := do
  let failed (texts : List String) : Effect Nat := do
    texts.forM tell
    return 1
  let now : Int := (← shared).host.clock
  match leadingOptions { start := now + 2 } words with
  | .error texts => failed texts
  | .ok (p, words) =>
    let paths := words.takeWhile fun word => !Finding.isExpression word true
    let rest := words.drop paths.length
    if rest.any (· ∈ ["-help", "--help", "-version", "--version"]) then return 0
    match ← Finding.planOf p rest with
    | .error texts => failed texts
    | .ok (p, c) =>
      if let some extra := paths.head?.filter fun _ => p.list.isSome then
        return ← failed [s!"extra operand {Quoting.value extra}",
          "file operands cannot be combined with -files0-from"]
      let all : Seek Unit := do
        let paths ← match p.list with
          | some list => listedStarts list
          | none => pure (if paths = [] then ["."] else paths)
        paths.forM (searchFrom start p c)
        finishAll start true
      return (← all.run {}).2.status

end Programs

end FileScript.Shell
