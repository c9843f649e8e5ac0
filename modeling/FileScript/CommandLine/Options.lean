/-!
# Options of the command line
-/

namespace FileScript.CommandLine

/-- What the program says about its use. -/
def usage : String :=
  "usage: fsrepl [--config PATH] [SCRIPT...]\n\n" ++
  "Replays one statement per line from each SCRIPT in order, or from stdin when\n" ++
  "no script is given. A SCRIPT of '-' reads stdin."

/-- What the command line asks for. -/
structure Options where
  /-- The file with the settings. -/
  config : Option String := none
  /-- The scripts to replay, in order. -/
  scripts : List String := []
  help : Bool := false
  deriving DecidableEq, Repr, Inhabited

/-- Why a command line is not understood. -/
inductive OptionError where
  /-- The last argument asks for settings and names no file. -/
  | missingPath
  | unknownOption (argument : String)
  deriving DecidableEq, Repr, Inhabited

namespace OptionError

/-- The text of an error. -/
def message : OptionError → String
  | missingPath => "--config needs a path"
  | unknownOption argument => s!"unknown option '{argument}'\n{usage}"

end OptionError

namespace Options

/-- The path in an argument that gives it after an equals sign. -/
def configPath? (argument : String) : Option String :=
  let stem := "--config="
  if argument.startsWith stem then some (String.ofList (argument.toList.drop stem.length)) else none

/-- The options after some more arguments. After `--`, every argument is a script. -/
def addArgs (o : Options) : List String → Except OptionError Options
  | [] => .ok o
  | "-h" :: rest | "--help" :: rest => addArgs { o with help := true } rest
  | ["--config"] => .error .missingPath
  | "--config" :: path :: rest => addArgs { o with config := some path } rest
  | "--" :: rest => .ok { o with scripts := o.scripts ++ rest }
  | argument :: rest =>
    match configPath? argument with
    | some path => addArgs { o with config := some path } rest
    | none =>
      if argument.startsWith "-" ∧ argument ≠ "-" then .error (.unknownOption argument)
      else addArgs { o with scripts := o.scripts ++ [argument] } rest

/-- The options that the arguments after the program's name give. -/
def ofArgs (args : List String) : Except OptionError Options := addArgs {} args

/-- The file with the settings: the one that the options name, else the one that the environment
names. An empty variable names none. -/
def configFile? (o : Options) (fromEnvironment : Option String) : Option String :=
  o.config <|> fromEnvironment.filter (· ≠ "")

end Options

end FileScript.CommandLine
