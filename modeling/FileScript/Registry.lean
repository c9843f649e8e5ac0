import FileScript.Output
import FileScript.Session
import FileScript.Statement

/-!
# Registries of commands

The commands that scripts can use, by name. A registry checks the number of arguments before it runs
a command, says how the lines of a script are split, and prints the list of its commands.
-/

namespace FileScript

/-- How a command presents itself to its users. -/
structure Synopsis where
  name : String
  description : String := ""
  usage : String := ""
  category : String := "general"
  /-- How many arguments the command takes. -/
  arity : Nat := 0
  /-- Whether the last argument is the rest of the line as it stands. -/
  takesTail : Bool := false
  deriving DecidableEq, Repr, Inhabited

namespace Synopsis

/-- For a command that takes the rest of the line, how many arguments precede that. -/
def tailPosition (c : Synopsis) : Option Nat :=
  if c.takesTail then some (c.arity - 1) else none

/-- Whether one command is listed before another: by category, then by name. -/
def precedes (a b : Synopsis) : Bool :=
  a.category < b.category || (a.category == b.category && a.name ≤ b.name)

/-- The line of a command in the list of commands, its usage filled up to `width` characters. -/
def helpLine (width : Nat) (c : Synopsis) : String :=
  "  " ++ c.usage.pushn ' ' (width - c.usage.length) ++ "  " ++ c.description ++ "\n"

end Synopsis

/-- A command that scripts can use. -/
structure Command extends Synopsis where
  run : List String → Action Output

/-- Commands by name. -/
structure Registry where
  commands : Std.TreeMap String Command := ∅

namespace Registry

/-- Adds a command, in place of one of the same name. -/
def register (r : Registry) (c : Command) : Registry := ⟨r.commands.insert c.name c⟩

/-- The registry of some commands; of two with the same name, the later one counts. -/
def ofList (commands : List Command) : Registry := commands.foldl register {}

/-- The command of a name. -/
def get? (r : Registry) (name : String) : Option Command := r.commands[name]?

/-- How the arguments of the commands are split. -/
def grammar (r : Registry) : Grammar := fun name => (r.get? name).bind (·.tailPosition)

/-- Carries out a statement. -/
def execute (r : Registry) (s : Statement) : Action Output :=
  match r.get? s.command with
  | none => throw (.unknownCommand s.command)
  | some c =>
    if s.args.length = c.arity then c.run s.args
    else throw (.arity s.command c.arity s.args.length)

/-- The names and descriptions of all commands, in the order of their names. -/
def list (r : Registry) : List (String × String) :=
  r.commands.values.map fun c => (c.name, c.description)

/-- The list of some commands, with a heading before the first of each category. -/
def helpLines (width : Nat) (category : String) : List Synopsis → List String
  | [] => []
  | c :: rest =>
    (if c.category ≠ category then [s!"{c.category}:\n"] else [])
      ++ c.helpLine width :: helpLines width c.category rest

/-- The list of all commands by category. -/
def help (r : Registry) : String :=
  let commands := (r.commands.values.map Command.toSynopsis).mergeSort Synopsis.precedes
  let width := (commands.map (·.usage.utf8ByteSize)).foldl max 0
  String.join (helpLines width "" commands)

end Registry

end FileScript
