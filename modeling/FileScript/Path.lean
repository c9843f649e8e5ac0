import FileScript.Text.Runs

/-!
# Paths

A path is spelled with components separated by slashes, and spellings with the same components mean
the same place. The normal form of a path is `/` followed by its components with single slashes
between them; stores keep their names in this form, so that everything below a directory `d` begins
with `d/`.
-/

namespace FileScript.Path

/-- The path of the root directory. -/
def root : String := "/"

/-- The components of a path: its maximal runs of characters other than `/`, in order. -/
def components (path : String) : List String :=
  (Text.runs (· == '/') path.toList).map String.ofList

/-- The normal form of the path with the given components. -/
def ofComponents (names : List String) : String := root ++ "/".intercalate names

/-- Whether two slashes stand side by side. -/
def hasDoubledSlash : List Char → Bool
  | '/' :: '/' :: _ => true
  | _ :: rest => hasDoubledSlash rest
  | [] => false

/-- Whether a path is in normal form: it begins with a slash, ends in none unless it is the root,
and has no two of them side by side. -/
def isNormal (path : String) : Bool :=
  path.startsWith "/" && (path == root || !path.endsWith "/") && !hasDoubledSlash path.toList

/-- A text with single slashes in place of runs of them. A slash at its beginning is left out, too,
if the text comes after a slash. -/
def collapse (afterSlash : Bool) : List Char → List Char
  | [] => []
  | c :: rest =>
    if c = '/' then
      if afterSlash then collapse true rest else c :: collapse true rest
    else c :: collapse false rest

/-- A text without the slash at its end, unless it is that slash alone. -/
def trimSlash (text : List Char) : List Char :=
  if 1 < text.length ∧ text.getLast? = some '/' then text.dropLast else text

/-- The normal form of a path, made from its characters: one slash goes in front, runs of slashes
become single ones, and the last character is no slash. -/
def rebuild (path : String) : String :=
  String.ofList (trimSlash (collapse false ('/' :: path.toList)))

/-- The normal form of a path. A path that is in normal form is returned as it stands. -/
def normalize (path : String) : String :=
  if isNormal path then path else rebuild path

/-- The directory that holds a normal path. The root holds itself. -/
def parent (path : String) : String :=
  match (path.toList.reverse.dropWhile (· != '/')).tail with
  | [] => root
  | above => String.ofList above.reverse

/-- The last component of a normal path; empty for the root. -/
def baseName (path : String) : String :=
  String.ofList (path.toList.reverse.takeWhile (· != '/')).reverse

/-- What the paths below a directory begin with. -/
def stem (directory : String) : String :=
  if directory = root then root else directory ++ "/"

/-- Whether `path` is `top` itself or lies below it. -/
def isWithin (top path : String) : Bool :=
  path == top || path.startsWith (top ++ "/")

/-- The place below `target` that corresponds to the place `path` at or below `source`. -/
def rebase (source target path : String) : String :=
  target ++ String.ofList (path.toList.drop source.length)

end FileScript.Path
