import FileScript.Shell.LinePattern.Matching

/-!
# Scripts that edit lines

A script is a list of commands that are carried out for one line after the other. A command can have
addresses, which say for which lines it is meant.
-/

namespace FileScript.Shell

namespace Editing

open Octets (Piece)

/-- What a place in a script looks for. -/
inductive Sought where
  /-- The pattern that was looked for last. -/
  | previous
  | pattern (e : LinePattern.Expression) (search : LinePattern.Search)
  deriving Repr, Inhabited

/-- The lines for which a command is meant, or the first of them. -/
inductive Address where
  | line (number : Nat)
  /-- Every so many lines. -/
  | every (first step : Nat)
  | last
  | fitting (s : Sought)
  deriving Repr, Inhabited

/-- The last of the lines for which a command is meant. -/
inductive Reach where
  | line (number : Nat)
  | last
  | fitting (s : Sought)
  /-- So many more lines. -/
  | more (count : Nat)
  /-- Up to a line with a number that is a multiple. -/
  | multiple (factor : Nat)
  deriving Repr, Inhabited

/-- How letters are changed. -/
inductive Case where
  | same
  | upper
  | lower
  deriving DecidableEq, Repr, Inhabited

/-- A part of a replacement: some characters and then perhaps what a group has taken. -/
structure Part where
  text : List Piece
  group : Option Nat := none
  letters : Case := .same
  /-- How the first letter is changed, if not like the others. -/
  first : Case := .same
  deriving Repr, Inhabited

/-- What replaces a part of a line. -/
structure Substitution where
  sought : Sought
  parts : List Part
  /-- Whether all matches are replaced, from the first one that counts on. -/
  everywhere : Bool := false
  /-- The first match that counts. -/
  first : Nat := 1
  prints : Bool := false
  /-- A file to which a changed line is written. -/
  file : Option String := none
  deriving Repr, Inhabited

/-- What a command does. Jumps without a label go to the end of the script. -/
inductive Action where
  /-- The beginning of a block, and the place behind its end. -/
  | open (stop : Nat)
  | close
  | mark (label : String)
  | jump (label : Option String)
  | jumpIf (label : Option String)
  | jumpUnless (label : Option String)
  | append (text : String)
  | insert (text : String)
  | change (text : String)
  | delete
  | deleteFirst
  | print
  | printFirst
  | next
  | appendNext
  | get
  | appendHeld
  | hold
  | appendToHeld
  | exchange
  | empty
  | number
  | name
  | list (width : Option Nat)
  | quit (status : Nat) (silent : Bool)
  | readFile (path : String)
  | readLine (path : String)
  | writeLine (path : String)
  | writeFirst (path : String)
  | substitute (s : Substitution)
  | exchangeLetters (pairs : List (Piece × Piece))
  deriving Repr, Inhabited

/-- A command. -/
structure Command where
  address : Option (Address × Option Reach) := none
  /-- Whether the command is meant for all other lines. -/
  negated : Bool := false
  action : Action
  deriving Repr, Inhabited

/-- A script. -/
abbrev Script := Array Command

/-- The place of a label in a script. -/
def Script.placeOf? (script : Script) (label : String) : Option Nat :=
  script.findIdx? fun c =>
    match c.action with
    | .mark name => name = label
    | _ => false

/-- The label to which a command jumps. -/
def Action.aim? : Action → Option String
  | jump label | jumpIf label | jumpUnless label => label
  | _ => none

end Editing

end FileScript.Shell
