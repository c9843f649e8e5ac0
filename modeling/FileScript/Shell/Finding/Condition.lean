import FileScript.Folder
import FileScript.Shell.Format
import FileScript.Shell.LinePattern.Matching
import FileScript.Shell.Pattern

/-!
# Conditions on files

What a search through directories asks of each file that it meets, and what it does with it: tests
and actions, which are joined by negation, conjunction, disjunction and by commas. An action counts
as a test too.
-/

namespace FileScript.Shell.Finding

/-! ## Tests -/

/-- How a number has to compare with another one. -/
structure Bound where
  side : Ordering
  number : Nat
  deriving DecidableEq, Repr, Inhabited

/-- Whether a number is within a bound. -/
def Bound.admits (b : Bound) (n : Nat) : Bool := compare n b.number = b.side

/-- How a moment has to compare with another one. Equal moments lie within a time from there. -/
structure MomentBound where
  side : Ordering
  moment : Int
  window : Int
  deriving DecidableEq, Repr, Inhabited

/-- Whether a moment is within a bound. -/
def MomentBound.admits (b : MomentBound) (time : Int) : Bool :=
  match b.side with
  | .lt => time < b.moment
  | .gt => b.moment < time
  | .eq => b.moment < time && time ≤ b.moment + b.window

/-- What text of a file a pattern is compared with. -/
inductive NamePart where
  | base
  | path
  /-- The target of a link. -/
  | target
  deriving DecidableEq, Repr, Inhabited

/-- How the permissions of a file have to compare with others. -/
inductive Agreement where
  | exactly
  | all
  | some
  deriving DecidableEq, Repr, Inhabited

/-- A test of a file. -/
inductive Test where
  | constant (holds : Bool)
  | named (part : NamePart) (folds : Bool) (pattern : String)
  | described (e : LinePattern.Expression) (folds : Bool)
  /-- Whether a file is of one of some kinds. A link can count as what it leads to, or as a link. -/
  | kind (letters : List Char) (other : Bool)
  /-- Whether the number of units in which the file fits is within a bound. -/
  | size (unit : Nat) (bound : Bound)
  | names (bound : Bound)
  | number (bound : Bound)
  | owner (bound : Bound)
  | group (bound : Bound)
  /-- Whether the user to whom a file belongs has no name. -/
  | ownerless
  /-- Whether the group to which a file belongs has no name. -/
  | groupless
  | changed (bound : MomentBound)
  /-- Whether a time that is always the same is within a bound. -/
  | idle (bound : MomentBound)
  | permissions (agreement : Agreement) (file directory : Nat)
  | empty
  /-- Whether there is something to which a file leads. -/
  | present
  | executable
  /-- Whether a file is the one at a place. -/
  | same (place : Place)
  deriving Repr, Inhabited

/-! ## Actions -/

/-- A part of a format. -/
inductive Part where
  | text (text : String)
  | value (d : Format.Directive) (letter : Char)
  /-- The time of a file. -/
  | time (d : Format.Directive) (letter : Char)
  /-- A line that tells all of a file. -/
  | line
  /-- Ends the output. -/
  | stop

/-- A command that is carried out for files. -/
structure Errand where
  words : List String
  /-- Whether it is carried out in the directory of a file. -/
  inside : Bool := false
  /-- Whether it is carried out only if the answer to a question is yes. -/
  asks : Bool := false
  /-- Whether it is carried out for several files at once; and the number of it among such
  commands. -/
  together : Option Nat := none
  deriving DecidableEq, Repr, Inhabited

/-- What is done with a file. -/
inductive Action where
  | print (path : Option String) (parts : List Part)
  | perform (errand : Errand)
  | delete
  /-- Does not go into the directory. -/
  | prune
  /-- Ends the search. -/
  | quit

/-- A condition on a file. -/
inductive Condition where
  | test (t : Test)
  | action (a : Action)
  | not (c : Condition)
  | and (a b : Condition)
  | or (a b : Condition)
  /-- Both are decided; the second one counts. -/
  | after (a b : Condition)

instance : Inhabited Condition := ⟨.test default⟩

namespace Condition

/-- Whether something is done with files. -/
def acts : Condition → Bool
  | test _ => false
  | action _ => true
  | not c => c.acts
  | and a b | or a b | after a b => a.acts || b.acts

end Condition

/-- How much has to be known of a file for a test: nothing but its path, its number, its kind, all
that is kept with it, the target of a link, or the permission to use it. -/
def Test.effort : Test → Nat
  | constant _ | described .. => 0
  | named .target .. => 4
  | named .. => 0
  | number _ => 1
  | kind .. => 2
  | size .. | names _ | owner _ | group _ | ownerless | groupless | changed _ | idle _ => 3
  | permissions .. | empty | same _ => 3
  | present | executable => 5

/-- How much has to be known of a file for the tests in a condition. -/
def Condition.effort : Condition → Nat
  | test t => t.effort
  | action _ => 0
  | not c => c.effort
  | and a b | or a b | after a b => max a.effort b.effort

/-! ## Reading conditions -/

/-- A part of a written condition. Parentheses can be added by the program. -/
inductive Token where
  | single (c : Condition)
  | negation (name : String)
  | joint (name : String) (level : Nat)
  | opening
  | closing (added : Bool)

/-- The levels of what joins conditions: commas, disjunction, conjunction, negation. -/
def commaLevel : Nat := 1

/-- The level of a disjunction. -/
def orLevel : Nat := 2

/-- The level of a conjunction. -/
def andLevel : Nat := 3

/-- The level of a negation. -/
def notLevel : Nat := 4

/-- The mistake of a closing parenthesis behind a token. -/
def closingMistake (added : Bool) : Option Token → String
  | some (.negation name) | some (.joint name _) =>
    if added then s!"expected an expression after '{name}'"
    else s!"expected an expression between '{name}' and ')'"
  | _ => "invalid expression; you have too many ')'"

/-- The condition that joins two others. Of two conditions with a comma between them that do nothing,
the easier one is decided first. -/
def joined (level : Nat) (a b : Condition) : Condition :=
  if level = commaLevel then
    if !a.acts ∧ !b.acts ∧ b.effort < a.effort then .after b a else .after a b
  else if level = orLevel then .or a b
  else .and a b

mutual

/-- Reads a condition whose parts are joined more closely than a level says. `before` is the token
before it. -/
def reading : Nat → (level : Nat) → (before : Option Token) → List Token →
    Except String (Condition × List Token)
  | 0, _, _, _ | _, _, _, [] => .error "invalid expression"
  | fuel + 1, level, before, token :: rest => do
    match token with
    | .joint name _ =>
      throw ("invalid expression; you have used a binary operator '" ++ name ++
        "' with nothing before it.")
    | .closing added => throw (closingMistake added before)
    | .single c => more fuel level c rest
    | .negation _ =>
      let (c, rest) ← reading fuel notLevel (some token) rest
      more fuel level (.not c) rest
    | .opening =>
      match rest with
      | [] | .closing true :: _ =>
        throw ("invalid expression; expected to find a ')' but didn't see one. " ++
          "Perhaps you need an extra predicate after '('")
      | .closing false :: _ =>
        throw "invalid expression; empty parentheses are not allowed."
      | _ =>
        match ← reading fuel 0 (some token) rest with
        | (c, .closing _ :: rest) => more fuel level c rest
        | _ =>
          throw ("invalid expression; I was expecting to find a ')' somewhere but did not see " ++
            "one.")

/-- Reads what is joined to a condition. -/
def more : Nat → (level : Nat) → Condition → List Token → Except String (Condition × List Token)
  | 0, _, _, _ => .error "invalid expression"
  | fuel + 1, level, c, rest => do
    match rest with
    | .joint name own :: after =>
      if level < own then
        let (d, rest) ← reading fuel own (some (.joint name own)) after
        more fuel level (joined own c d) rest
      else return (c, rest)
    | _ => return (c, rest)

end

/-- The condition that tokens make up. -/
def Condition.ofTokens (tokens : List Token) : Except String Condition := do
  match ← reading (2 * tokens.length + 2) 0 none tokens with
  | (c, []) => return c
  | (_, .closing _ :: _) => throw "you have too many ')'"
  | _ => throw "unexpected extra predicate"

end FileScript.Shell.Finding
