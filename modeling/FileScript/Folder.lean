import FileScript.Path

/-!
# The folder in which the program runs

The files around the program, as far as it gets to see them: the folder in which it runs with what
lies there, a few places that are the same everywhere, and the standard input, which has a name
too. A path is followed name by name from the root or from a directory, and every place that it
leads through has to be a directory, or a link to one.
-/

namespace FileScript

/-- What there is at a place. -/
inductive FolderItem where
  | file (bytes : ByteArray)
  | directory
  /-- Holds nothing, and drops what is written to it. -/
  | null
  /-- Holds endless bytes, and drops what is written to it. -/
  | endless
  /-- The standard input of the program. -/
  | input
  /-- A program that can be started. -/
  | executable
  /-- Stands for what there is at another path. -/
  | link (target : String)

namespace FolderItem

/-- So many of endless bytes. -/
def endlessBytes (count : Nat) : ByteArray := (List.replicate count (0 : UInt8)).toByteArray

/-- How many of endless bytes can be read at once. -/
def endlessSize : Nat := 262144

end FolderItem

/-- Why a place cannot be reached or used. -/
inductive FolderError where
  | notFound
  | notADirectory
  | isADirectory
  | nameTooLong
  | denied
  | alreadyThere
  | notEmpty
  | tooManyLinks
  deriving DecidableEq, Repr, Inhabited

namespace FolderError

/-- What an error says. -/
def text : FolderError → String
  | notFound => "No such file or directory"
  | notADirectory => "Not a directory"
  | isADirectory => "Is a directory"
  | nameTooLong => "File name too long"
  | denied => "Permission denied"
  | alreadyThere => "File exists"
  | notEmpty => "Directory not empty"
  | tooManyLinks => "Too many levels of symbolic links"

/-- The number of an error. -/
def number : FolderError → Nat
  | notFound => 2
  | notADirectory => 20
  | isADirectory => 21
  | nameTooLong => 36
  | denied => 13
  | alreadyThere => 17
  | notEmpty => 39
  | tooManyLinks => 40

/-- What an error says, with its number. -/
def message (e : FolderError) : String := s!"{e.text} (os error {e.number})"

end FolderError

/-- A place: the names that lead to it from the root. -/
abbrev Place := List String

/-- What is known about an item besides what it holds. -/
structure ItemDetails where
  /-- The permissions, if they are not the usual ones. -/
  mode : Option Nat := none
  /-- When the item was changed last, in nanoseconds from the start of the program on. -/
  time : Int := 0
  /-- The number of the user to whom the item belongs. -/
  owner : Nat := 0
  /-- The number of the group to which the item belongs. -/
  group : Nat := 0
  deriving DecidableEq, Repr, Inhabited

/-- The items at their places. Only the first item of a place counts. -/
structure Folder where
  /-- Where the program runs. -/
  base : Place
  items : List (Place × FolderItem)
  details : List (Place × ItemDetails) := []
  /-- Where a file is kept that can have several names, or none: its names, and the place to which no
  path leads. -/
  names : List (Place × Place) := []
  /-- How many files have been kept that way. -/
  keptCount : Nat := 0

namespace Folder

/-- The longest name, in bytes. -/
def maxNameSize : Nat := 255

/-- A path has to be shorter than this, in bytes. -/
def pathLimit : Nat := 4096

/-- How many links a path can lead through. -/
def linkLimit : Nat := 40

/-- The programs that can be started by their names. -/
def programs : List String :=
  ["arch", "awk", "base32", "base64", "basename", "cat", "chgrp", "chmod", "chown", "cksum", "cmp",
    "comm", "cp", "cut", "dash", "date", "dd", "diff", "dirname", "du", "echo", "egrep", "env",
    "expand", "expr", "factor", "false", "fgrep", "find", "fmt", "fold", "grep", "groups", "head",
    "hostname", "id", "install", "join", "kill", "link", "ln", "logname", "ls", "mawk", "md5sum",
    "mkdir", "mktemp", "mv", "nice", "nl", "nohup", "nproc", "numfmt", "od", "paste", "pathchk",
    "printenv", "printf", "pwd", "readlink", "realpath", "rev", "rm", "rmdir", "sed", "seq", "sh",
    "sha1sum", "sha224sum", "sha256sum", "sha384sum", "sha512sum", "shuf", "sleep", "sort",
    "split", "stat", "sum", "sync", "tac", "tail", "tee", "test", "timeout", "touch", "tr", "true",
    "truncate", "tsort", "tty", "uname", "unexpand", "uniq", "unlink", "wc", "which", "whoami",
    "xargs", "yes", "["]

/-- The items that are found everywhere. -/
def common : List (Place × FolderItem) :=
  [([], .directory), (["bin"], .directory), (["dev"], .directory), (["etc"], .directory),
    (["home"], .directory), (["root"], .directory), (["tmp"], .directory), (["usr"], .directory),
    (["usr", "bin"], .directory), (["var"], .directory), (["dev", "null"], .null),
    (["dev", "zero"], .endless), (["dev", "full"], .endless), (["dev", "random"], .endless),
    (["dev", "urandom"], .endless), (["dev", "stdin"], .input), (["dev", "fd"], .directory),
    (["dev", "fd", "0"], .input)] ++
  programs.flatMap fun name =>
    [(["bin", name], .executable), (["usr", "bin", name], .executable)]

/-- Where the item at a place is kept. -/
def keptAt (f : Folder) (place : Place) : Place := (f.names.lookup place).getD place

/-- The item at a place. -/
def item? (f : Folder) (place : Place) : Option FolderItem :=
  let kept := f.keptAt place
  (f.items.find? (·.1 = kept)).map (·.2)

/-- Puts an item at a place. A file changes under all of its names. -/
def put (f : Folder) (place : Place) (item : FolderItem) : Folder :=
  let goal := match item with
    | .file _ => f.keptAt place
    | _ => place
  { f with
    items := (goal, item) :: f.items.filter (·.1 ≠ goal)
    names := f.names.filter fun (p, _) => p ≠ place || goal ≠ place }

/-- Takes the item at a place away. -/
def erase (f : Folder) (place : Place) : Folder :=
  { f with
    items := f.items.filter (·.1 ≠ place), details := f.details.filter (·.1 ≠ place)
    names := f.names.filter (·.1 ≠ place) }

/-- Takes the item at a place away, with all that is in it. -/
def eraseAll (f : Folder) (place : Place) : Folder :=
  { f with
    items := f.items.filter fun (p, _) => !place.isPrefixOf p
    details := f.details.filter fun (p, _) => !place.isPrefixOf p
    names := f.names.filter fun (p, _) => !place.isPrefixOf p }

/-- Moves the item at a place to another one, with all that is in it. -/
def move (f : Folder) (source target : Place) : Folder :=
  let moved (p : Place) : Place :=
    if source.isPrefixOf p then target ++ p.drop source.length else p
  let f := f.eraseAll target
  { f with
    items := f.items.map fun (p, item) => (moved p, item)
    details := f.details.map fun (p, details) => (moved p, details)
    names := f.names.map fun (p, kept) => (moved p, kept) }

/-- Keeps the file at a place so that it outlasts its name there, and can have other names. Yields
where it is kept. -/
def keep (f : Folder) (place : Place) : Folder × Place :=
  match f.names.lookup place, f.item? place with
  | none, some (.file bytes) =>
    let kept := ["", toString f.keptCount]
    let known := (f.details.filter (·.1 = place)).map fun (_, details) => (kept, details)
    let f := f.erase place
    ({ f with
      items := (kept, .file bytes) :: f.items, details := known ++ f.details
      names := (place, kept) :: f.names, keptCount := f.keptCount + 1 }, kept)
  | known, _ => (f, known.getD place)

/-- Gives the file at a place another name. -/
def addName (f : Folder) (place name : Place) : Folder :=
  let (f, kept) := f.keep place
  { f with names := (name, kept) :: f.names.filter (·.1 ≠ name) }

/-- How many names the item at a place has. -/
def nameCount (f : Folder) (place : Place) : Nat :=
  match f.names.lookup place with
  | some kept => (f.names.filter (·.2 = kept)).length
  | none => 1

/-- What is known about the item at a place. -/
def detailsOf (f : Folder) (place : Place) : ItemDetails :=
  (f.details.lookup (f.keptAt place)).getD {}

/-- Changes what is known about the item at a place. -/
def modifyDetails (f : Folder) (place : Place) (change : ItemDetails → ItemDetails) : Folder :=
  let kept := f.keptAt place
  { f with
    details := (kept, change (f.detailsOf place)) :: f.details.filter (·.1 ≠ kept) }

/-- The permissions of the item at a place. -/
def modeOf (f : Folder) (place : Place) : Nat :=
  (f.detailsOf place).mode.getD <|
    match f.item? place with
    | some (.file _) => 0o644
    | some .null | some .endless | some .input => 0o666
    | some (.link _) => 0o777
    | _ => 0o755

/-- The names in a directory, in order. -/
def list (f : Folder) (place : Place) : List String :=
  let places := f.items.map (·.1) ++ f.names.map (·.1)
  (places.filterMap fun p =>
    if p.dropLast = place ∧ p ≠ [] then p.getLast? else none).mergeSort (· ≤ ·)

/-- The folder with an item and with the directories that lead to it. -/
def plant (f : Folder) (place : Place) (item : FolderItem) : Folder :=
  let above := (List.range place.length).map place.take
  (above.foldl (fun f p => if (f.item? p).isSome then f else f.put p .directory) f).put place item

/-- The place to which names lead, without looking at what is there. -/
def descend (place : Place) (names : List String) : Place :=
  names.foldl (fun place name =>
    if name = "." then place else if name = ".." then place.dropLast else place ++ [name]) place

/-- A folder at `base` that holds items at relative or absolute paths. -/
def ofItems (base : Place) (items : List (String × FolderItem)) : Folder :=
  let start : Folder := { base, items := common }
  items.foldl (fun f (path, item) =>
    f.plant (descend (if path.startsWith "/" then [] else base) (Path.components path)) item)
    (start.plant base .directory)

/-! ## Following a path -/

/-- The names in a path. A slash at the end asks for a directory, as a dot does. -/
def steps (path : String) : List String :=
  Path.components path ++ if path.endsWith "/" then ["."] else []

/-- The place to which names lead from a place where there is `item`, through so many links at most.
A link at the end is followed only if `last` says so. -/
def follow (f : Folder) (last : Bool) : (fuel links : Nat) → Place → FolderItem → List String →
    Except FolderError (Place × FolderItem)
  | 0, _, _, _, _ => .error .tooManyLinks
  | _, _, place, item, [] => .ok (place, item)
  | fuel + 1, links, place, item, name :: names =>
    match item with
    | .directory =>
      if name = "." then f.follow last fuel links place item names
      else if name = ".." then f.follow last fuel links place.dropLast .directory names
      else if name.utf8ByteSize > maxNameSize then .error .nameTooLong
      else match f.item? (place ++ [name]) with
        | none => .error .notFound
        | some (.link target) =>
          if names = [] ∧ !last then .ok (place ++ [name], .link target)
          else match links with
            | 0 => .error .tooManyLinks
            | links + 1 =>
              let start := if target.startsWith "/" then [] else place
              f.follow last fuel links start .directory (steps target ++ names)
        | some item => f.follow last fuel links (place ++ [name]) item names
    | _ => .error .notADirectory

/-- A bound for the number of names on the way of a path. -/
def followFuel : Nat := (linkLimit + 1) * pathLimit

/-- The place and the item to which names lead from a place. -/
def followFrom (f : Folder) (last : Bool) (directory : Place) (path : String)
    (names : List String) : Except FolderError (Place × FolderItem) :=
  let start := if path.startsWith "/" then [] else directory
  f.follow last followFuel linkLimit start .directory names

/-- The place and the item to which a path leads from a directory. -/
def find (f : Folder) (directory : Place) (path : String) (last : Bool := true) :
    Except FolderError (Place × FolderItem) :=
  if path = "" then .error .notFound
  else if path.utf8ByteSize ≥ pathLimit then .error .nameTooLong
  else f.followFrom last directory path (steps path)

/-- The directory in which the last name of a path is looked for, and the name. -/
def findAbove (f : Folder) (directory : Place) (path : String) :
    Except FolderError (Place × String) := do
  let names := Path.components path
  let (above, item) ← f.followFrom true directory path names.dropLast
  match item, names.getLast? with
  | .directory, some name => .ok (above, name)
  | .directory, none => .error .notFound
  | _, _ => .error .notADirectory

/-- The place at which a path would make a new item, if there is none: the directory has to be
there. Where a link leads to nothing, the item would be made at its target. -/
def findNewWithin (f : Folder) : Nat → (directory : Place) → (path : String) →
    Except FolderError Place
  | 0, _, _ => .error .tooManyLinks
  | links + 1, directory, path => do
    match f.find directory path with
    | .ok _ => .error .alreadyThere
    | .error .notFound =>
      if path = "" then .error .notFound
      else
        let (above, name) ← f.findAbove directory path
        match f.item? (above ++ [name]) with
        | some (.link target) => f.findNewWithin links above target
        | _ => .ok (above ++ [name])
    | .error e => .error e

/-- The place at which a path would make a new item, if there is none. -/
def findNew (f : Folder) (directory : Place) (path : String) : Except FolderError Place :=
  f.findNewWithin linkLimit directory path

end Folder

end FileScript
