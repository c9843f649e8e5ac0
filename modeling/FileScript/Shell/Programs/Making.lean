import FileScript.Shell.Calendar.Reader
import FileScript.Shell.Programs.Mode
import FileScript.Shell.Programs.Names
import FileScript.Shell.Programs.Size

/-!
# Making and changing files

Programs that make files and directories, and that change their sizes, times and modes.
-/

namespace FileScript.Shell

namespace Programs

open Calendar (Date timeAt)
open Effect

/-- Does something with each path. The reason of a failure is told after what was to be done. -/
def forPaths (paths : List String)
    (act : String → Effect (Option (String × String))) : Effect Nat := do
  let statuses ← paths.mapM fun path => do
    match ← act path with
    | none => return 0
    | some (doing, reason) => refuse s!"{doing} {Quoting.always path}: {reason}"
  return worst statuses

/-! ## Times -/

/-- The number that digits denote. -/
def digitsValue (digits : List Char) : Nat := (Integer.digits 10 digits).1

/-- The moment that a stamp denotes, with two digits for each of its parts. -/
def ofStamp? (word : String) : Option Int := do
  let (digits, seconds) ← match word.splitOn "." with
    | [digits] => some (digits.toList, [])
    | [digits, seconds] =>
      if seconds.length = 2 then some (digits.toList, seconds.toList) else none
    | _ => none
  guard ((digits ++ seconds).all Char.isDigit)
  let rest := digits.drop (digits.length - 8)
  let part (i : Nat) : Nat := digitsValue ((rest.drop (2 * i)).take 2)
  let lead := digitsValue (digits.take (digits.length - 8))
  let year ← match digits.length with
    | 8 => some (Date.ofTime 0).year.toNat
    | 10 => some (if lead < 69 then 2000 + lead else 1900 + lead)
    | 12 => some lead
    | _ => none
  let second := digitsValue seconds
  let date : Date := {
    year, month := part 0, day := part 1, hour := part 2, minute := part 3
    second := min 59 second }
  if date.isReal ∧ second ≤ 60 then some (timeAt (date.seconds + second - date.second)) else none

/-- The moment to which a call sets the times of files, or what is wrong with it. -/
def touchTime (call : Call) : Effect (Except String (Option Int)) := do
  let now := (← shared).host.clock
  match call.value? "t", call.value? "date", call.value? "reference" with
  | some stamp, _, _ =>
    match ofStamp? stamp with
    | some time => return .ok (some time)
    | none => return .error s!"invalid date format {Quoting.value stamp}"
  | none, some text, _ =>
    match Calendar.ofText? (.ofTime now) text with
    | some (seconds, nanoseconds) => return .ok (some (timeAt seconds nanoseconds))
    | none => return .error s!"invalid date format {Quoting.value text}"
  | none, none, some path =>
    match ← find path with
    | .ok (place, _) => return .ok (some ((← shared).host.folder.detailsOf place).time)
    | .error e => return .error s!"failed to get attributes of {Quoting.always path}: {e.text}"
  | none, none, none => return .ok none

/-- The options of `touch`. -/
def touchOptions : List Known :=
  [flag 'a', flag 'c' "no-create", valued 'd' "date", flag 'f', flag 'h' "no-dereference",
    flag 'm', valued 'r' "reference", { key := "t", letter := some 't', takes := .value },
    long "time" .value]

/-- Sets the times of files, and makes files that are not there. -/
def touch (words : List String) : Effect Nat :=
  called touchOptions words fun call => do
    match ← touchTime call with
    | .error text => refuse text
    | .ok time =>
      if call.operands = [] then return ← misused "missing file operand"
      let stamp (place : Place) : Effect Unit := do
        match time with
        | none => touchPlace place
        | some time => modifyFolder (·.modifyDetails place ({ · with time }))
      let changesTime := !call.has "a" || call.has "m"
      forPaths call.operands fun path => do
        if path = "-" then return none
        let failed (e : FolderError) : Option (String × String) := some ("cannot touch", e.text)
        match ← find path with
        | .ok (place, _) =>
          if changesTime then stamp place
          return none
        | .error e =>
          if e ≠ .notFound then return failed e
          if call.has "no-create" then return none
          match ← findNew path with
          | .ok place =>
            if path.endsWith "/" then return some ("setting times of", e.text)
            putItem place (.file .empty)
            stamp place
            return none
          | .error e => return failed e

/-! ## Directories -/

/-- Makes a directory at a place. -/
def makeDirectory (place : Place) (mode : Option ModeWord) : Effect Unit := do
  putItem place .directory
  if let some word := mode then
    let mode := word.apply true (← self).mask (0o777 &&& (0o777 ^^^ (← self).mask))
    modifyFolder (·.modifyDetails place ({ · with mode := some mode }))

/-- Makes a directory, and tells its path if that is asked for; or tells why it cannot be made. -/
def makeAt (call : Call) (mode : Option ModeWord) (path : String) : Effect Nat := do
  match ← findNew path with
  | .ok place =>
    makeDirectory place mode
    if call.has "verbose" then
      print s!"{(← self).name}: created directory {Quoting.always path}\n"
    return 0
  | .error e => refuse s!"cannot create directory {Quoting.value path}: {e.text}"

/-- Makes a directory with all that lead to it. -/
def makeParents (call : Call) (mode : Option ModeWord) : List String → Effect Nat
  | [] => return 0
  | path :: rest => do
    match ← find path with
    | .ok (_, .directory) => makeParents call mode rest
    | .ok _ =>
      let e : FolderError := if rest = [] then .alreadyThere else .notADirectory
      refuse s!"cannot create directory {Quoting.value path}: {e.text}"
    | .error _ =>
      match ← makeAt call (if rest = [] then mode else none) path with
      | 0 => makeParents call mode rest
      | status => return status

/-- The paths that lead to a path, and the path itself. -/
def pathsTo (path : String) : List String :=
  let names := Path.components path
  let start := if path.startsWith "/" then "/" else ""
  if names = [] then [path]
  else (List.range names.length).map fun i => start ++ "/".intercalate (names.take (i + 1))

/-- Makes directories. -/
def mkdir (words : List String) : Effect Nat :=
  called [valued 'm' "mode", flag 'p' "parents", flag 'v' "verbose", flag 'Z' "context"] words
    fun call => do
      if call.operands = [] then return ← lacksOperand
      let mode := call.value? "mode"
      let word := mode.bind ModeWord.ofText?
      if let (some text, none) := (mode, word) then
        return ← refuse s!"invalid mode {Quoting.value text}"
      return worst (← call.operands.mapM fun path =>
        if call.has "parents" then makeParents call word (pathsTo path)
        else makeAt call word path)

/-! ## Sizes -/

/-- How a size is given: in full, or by what is added to it, taken from it, or by limits. -/
inductive SizeChange where
  | exactly (n : Nat)
  | add (n : Nat)
  | remove (n : Nat)
  | atMost (n : Nat)
  | atLeast (n : Nat)
  | roundDown (n : Nat)
  | roundUp (n : Nat)
  deriving DecidableEq, Repr, Inhabited

namespace SizeChange

/-- The change that a word asks for. -/
def ofWord (word : String) : Except String SizeChange := do
  let text := word.toList.dropWhile isBlank
  let rest := String.ofList text.tail
  let number (rest : String) : Except String Nat :=
    (Programs.countOf "Invalid number" usualUnits rest).mapError fun _ =>
      s!"Invalid number: {Quoting.value word}"
  match text.head? with
  | some '+' => return .add (← number rest)
  | some '-' => return .remove (← number rest)
  | some '<' => return .atMost (← number rest)
  | some '>' => return .atLeast (← number rest)
  | some '/' => return .roundDown (← number rest)
  | some '%' => return .roundUp (← number rest)
  | _ => return .exactly (← number word)

/-- A size that is changed. -/
def apply (change : SizeChange) (size : Nat) : Nat :=
  match change with
  | exactly n => n
  | add n => size + n
  | remove n => size - n
  | atMost n => min size n
  | atLeast n => max size n
  | roundDown n => if n = 0 then size else size / n * n
  | roundUp n => if n = 0 then size else (size + n - 1) / n * n

end SizeChange

/-- Bytes that are cut off or filled up with zeros. -/
def resized (bytes : ByteArray) (size : Nat) : ByteArray :=
  bytes.extract 0 size ++ (List.replicate (size - bytes.size) (0 : UInt8)).toByteArray

/-- Changes the sizes of files. -/
def truncate (words : List String) : Effect Nat :=
  called [flag 'c' "no-create", flag 'o' "io-blocks", valued 'r' "reference", valued 's' "size"]
    words fun call => do
      let change ← match call.value? "size", call.value? "reference" with
        | some word, _ => pure (SizeChange.ofWord word)
        | none, some path =>
          match ← find path with
          | .ok (_, .file bytes) => pure (.ok (.exactly bytes.size))
          | .ok _ => pure (.ok (.exactly 0))
          | .error e => pure (.error s!"cannot stat {Quoting.always path}: {e.text}")
        | none, none =>
          return ← misused ("you must specify either " ++ Quoting.value "--size" ++ " or " ++
            Quoting.value "--reference")
      match change with
      | .error text => refuse text
      | .ok change =>
        if call.operands = [] then return ← misused "missing file operand"
        let statuses ← call.operands.mapM fun path => do
          let failed (e : FolderError) : Effect Nat :=
            refuse s!"cannot open {Quoting.always path} for writing: {e.text}"
          match ← find path with
          | .ok (place, .file bytes) =>
            putItem place (.file (resized bytes (change.apply bytes.size)))
            return 0
          | .ok (_, .directory) => failed .isADirectory
          | .ok _ => return 0
          | .error .notFound =>
            if call.has "no-create" then return 0
            match ← findNew path with
            | .ok place =>
              putItem place (.file (resized .empty (change.apply 0)))
              return 0
            | .error e => failed e
          | .error e => failed e
        return worst statuses

/-! ## Modes -/

/-- The paths of the items in a directory, before them the path of the directory itself. -/
def pathsBelow : Nat → String → Place → Effect (List (String × Place))
  | 0, _, _ => return []
  | fuel + 1, path, place => do
    let folder := (← shared).host.folder
    let below ← (folder.list place).mapM fun name => do
      let place := place ++ [name]
      let separator := if path.endsWith "/" then "" else "/"
      let path := path ++ separator ++ Octets.ofString name
      match folder.item? place with
      | some .directory => pathsBelow fuel path place
      | _ => return [(path, place)]
    return (path, place) :: below.flatten

/-- A bound for how deeply directories are nested. -/
def directoryDepth : Effect Nat := return (← shared).host.folder.items.length + 1

/-- A mode as a message shows it. -/
def shownMode (mode : Nat) : String := s!"{Octets.padded 4 mode 8} ({modeText mode})"

/-- Changes the mode of the item at a place, and tells what has changed if that is asked for. -/
def changeMode (call : Call) (change : Nat → Bool → Nat → Nat) (path : String) (place : Place) :
    Effect Unit := do
  let folder := (← shared).host.folder
  let old := folder.modeOf place
  let isDirectory := match folder.item? place with
    | some .directory => true
    | _ => false
  let new := change (← self).mask isDirectory old
  modifyFolder (·.modifyDetails place ({ · with mode := some new }))
  let name := Quoting.always path
  if new ≠ old ∧ (call.has "verbose" ∨ call.has "changes") then
    print s!"mode of {name} changed from {shownMode old} to {shownMode new}\n"
  else if new = old ∧ call.has "verbose" then
    print s!"mode of {name} retained as {shownMode old}\n"

/-- Words in which a mode that begins with a minus sign is no option. -/
def withModes : List String → List String
  | [] => []
  | "--" :: rest => "--" :: rest
  | word :: rest =>
    let isMode := match word.toList with
      | '-' :: c :: _ => "rwxXstugoa0123456789,+=-".toList.contains c && c ≠ '-'
      | _ => false
    if isMode then "--" :: word :: rest else word :: withModes rest

/-- Changes the modes of files. -/
def chmod (words : List String) : Effect Nat :=
  called [flag 'c' "changes", flag 'f' "silent", also "silent" "quiet", flag 'v' "verbose",
      flag 'R' "recursive", long "reference" .value, long "no-preserve-root",
      long "preserve-root"] (withModes words) fun call => do
    let reference := call.value? "reference"
    let (text, paths) := match reference, call.operands with
      | none, word :: rest => (word, rest)
      | _, operands => ("", operands)
    if reference.isNone ∧ call.operands = [] then return ← lacksOperand
    if paths = [] then
      return ← misused (if reference.isSome then "missing operand"
        else s!"missing operand after {Quoting.value text}")
    let change : Except String (Nat → Bool → Nat → Nat) ← match reference with
      | some path =>
        match ← find path with
        | .ok (place, _) =>
          let mode := (← shared).host.folder.modeOf place
          pure (.ok fun _ _ _ => mode)
        | .error e =>
          pure (.error s!"failed to get attributes of {Quoting.always path}: {e.text}")
      | none =>
        match ModeWord.ofText? text with
        | some word => pure (.ok fun mask isDirectory mode => word.apply isDirectory mask mode)
        | none => return ← misused s!"invalid mode: {Quoting.value text}"
    match change with
    | .error text => refuse text
    | .ok change =>
      let statuses ← paths.mapM fun path => do
        match ← find path with
        | .error e =>
          unless call.has "silent" do tell s!"cannot access {Quoting.always path}: {e.text}"
          return 1
        | .ok (place, item) =>
          match item, call.has "recursive" with
          | .directory, true =>
            (← pathsBelow (← directoryDepth) path place).forM fun (path, place) => do
              changeMode call change path place
          | _, _ => changeMode call change path place
          return 0
      return worst statuses

end Programs

end FileScript.Shell
