import FileScript.Path
import Std.Data.TreeMap

/-!
# Name tables

Which inode each normal path names. The table is sorted by path, so what lies below a directory is
one stretch of it: the names that begin with the directory's stem.
-/

namespace FileScript

/-- A table from normal paths to inode numbers. -/
abbrev Names := Std.TreeMap String Nat

namespace Names

/-- The inode number of the last named place on the way down from `top` through `steps`; if none of
them is named, what was `found` above them. -/
def lastNamed (names : Names) (top : String) (found : Option Nat) : List String → Option Nat
  | [] => found
  | step :: steps =>
    let place := top ++ "/" ++ step
    names.lastNamed place (names[place]? <|> found) steps

/-- The inode number of the nearest named place above a normal path. -/
def nearestAbove (names : Names) (path : String) : Option Nat :=
  names.lastNamed "" names[Path.root]? (Path.components path).dropLast

/-- The names from `stem` on, in order, up to the first that does not begin with it. -/
def scan (names : Names) (stem : String) : List (String × Nat) :=
  (names.toList.dropWhile (·.1 < stem)).takeWhile (·.1.startsWith stem)

/-- The entries directly in a directory, with their inode numbers, in the order of their names. -/
def children (names : Names) (directory : String) : List (String × Nat) :=
  let stem := Path.stem directory
  (names.scan stem).filterMap fun (path, inode) =>
    let rest := path.toList.drop stem.length
    if rest ≠ [] ∧ '/' ∉ rest then some (String.ofList rest, inode) else none

/-- The names at and below `top`. -/
def subtree (names : Names) (top : String) : List (String × Nat) :=
  (names[top]?.map (top, ·)).toList ++ names.scan (top ++ "/")

/-- Takes the name of an entry at or below `source` away, and gives the entry the corresponding name
below `target`. -/
def moveEntry (source target : String) (names : Names) (entry : String × Nat) : Names :=
  (names.erase entry.1).insert (Path.rebase source target entry.1) entry.2

/-- The table after everything at and below `source` went to the corresponding place below `target`,
one entry after the other. -/
def move (names : Names) (source target : String) : Names :=
  (names.subtree source).foldl (moveEntry source target) names

end Names

end FileScript
