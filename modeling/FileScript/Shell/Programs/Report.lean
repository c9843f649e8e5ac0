import FileScript.Shell.Records.Reader
import FileScript.Shell.Records.Running

/-!
# Reports on records

A program that carries out a program for the records of its input. The arguments behind that program
name files, or give values to variables.
-/

namespace FileScript.Shell

namespace Programs

open Effect

namespace Report

/-- How the program is used. -/
def usage : String :=
  "Usage: mawk [Options] [Program] [file ...]\n\n" ++
  "Program:\n" ++
  "    The -f option value is the name of a file containing program text.\n" ++
  "    If no -f option is given, a \"--\" ends option processing; the following\n" ++
  "    parameters are the program text.\n\n" ++
  "Options:\n" ++
  "    -f program-file  Program  text is read from file instead of from the\n" ++
  "                     command-line.  Multiple -f options are accepted.\n" ++
  "    -F value         sets the field separator, FS, to value.\n" ++
  "    -v var=value     assigns value to program variable var.\n" ++
  "    --               unambiguous end of options.\n\n" ++
  "    Implementation-specific options are prefixed with \"-W\".  They can be\n" ++
  "    abbreviated:\n\n" ++
  "    -W version       show version information and exit.\n" ++
  "    -W compat        pre-POSIX 2001.\n" ++
  "    -W dump          show assembler-like listing of program and exit.\n" ++
  "    -W help          show this message and exit.\n" ++
  "    -W interactive   set unbuffered output, line-buffered input.\n" ++
  "    -W exec file     use file as program as well as last option.\n" ++
  "    -W posix         stricter POSIX checking.\n" ++
  "    -W random=number set initial random seed.\n" ++
  "    -W sprintf=number adjust size of sprintf buffer.\n" ++
  "    -W usage         show this message and exit.\n"

/-- What the words of a call ask for. -/
structure Invocation where
  /-- The files that hold the program. -/
  files : List String := []
  /-- The variables that are given values. -/
  settings : List (String × String) := []
  /-- Whether only the usage is asked for. -/
  asksUsage : Bool := false
  /-- Whether only the version is asked for. -/
  asksVersion : Bool := false
  words : List String := []

/-- Adds an option with its value; or says what is wrong with the value. -/
def Invocation.add (i : Invocation) (letter : Char) (text : String) :
    Except String Invocation :=
  match letter with
  | 'f' => .ok { i with files := i.files ++ [text] }
  | 'F' => .ok { i with settings := i.settings ++ [("FS", text)] }
  | 'v' =>
    match Records.Machine.setting? text with
    | some setting => .ok { i with settings := i.settings ++ [setting] }
    | none => .error s!"improper assignment: -v {text}"
  | _ =>
    if text.startsWith "h" ∨ text.startsWith "u" then .ok { i with asksUsage := true }
    else if text.startsWith "v" then .ok { i with asksVersion := true }
    else .ok i

/-- Reads the words of a call. -/
def invocation (i : Invocation) : List String → Except String Invocation
  | [] => .ok i
  | word :: rest =>
    match word.toList with
    | ['-'] => .ok { i with words := word :: rest }
    | ['-', '-'] => .ok { i with words := rest }
    | '-' :: '-' :: name =>
      match String.ofList name with
      | "help" | "usage" => .ok { i with asksUsage := true }
      | "version" => .ok { i with asksVersion := true }
      | _ => .error s!"not an option: {word}"
    | '-' :: letter :: text =>
      if letter ∉ ['f', 'F', 'v', 'W'] then .error s!"not an option: {word}"
      else if text ≠ [] then do invocation (← i.add letter (String.ofList text)) rest
      else match rest with
        | [] => .error ("option -" ++ letter.toString ++ " lacks argument")
        | value :: rest => do invocation (← i.add letter value) rest
    | _ => .ok { i with words := word :: rest }

/-- The texts of a program in files; or what is said if one cannot be read. -/
def sourcesOf (paths : List String) : Effect (Except String (List (String × String))) := do
  let found ← paths.mapM fun path => do return (path, ← readFile path)
  return found.mapM fun (path, text) =>
    match text with
    | .ok text => .ok (path ++ ": ", text)
    | .error (.opening reason) => .error ("cannot open \"" ++ path ++ s!"\" ({reason})")
    | .error (.reading reason) => .error s!"read error ({reason})"

/-- The variables with which a program begins. -/
def initialMachine (arguments : List String) (known : List (String × String)) :
    Records.Machine :=
  let outer (text : String) : Records.Value := .outer text
  let argumentTable : Records.Table :=
    (arguments.zipIdx.foldl fun t (text, i) =>
      (t.useInteger true i).set (toString i) (outer text)) {}
  let environmentTable : Records.Table :=
    known.foldl (fun t (name, text) => (t.useText true name).set name (outer text)) {}
  let number (n : Nat) : Records.Slot := .scalar (.ofNat n)
  let text (s : String) : Records.Slot := .scalar (.text s)
  let pairs : List (String × Records.Slot) :=
    [("NR", number 0), ("FNR", number 0), ("NF", number 0), ("FS", text " "), ("OFS", text " "),
      ("ORS", text "\n"), ("RS", text "\n"), ("FILENAME", text ""), ("SUBSEP", text "\x1c"),
      ("RSTART", number 0), ("RLENGTH", .scalar (.number (-1))), ("OFMT", text "%.6g"),
      ("CONVFMT", text "%.6g"), ("ARGC", number arguments.length), ("ARGV", .table 0),
      ("ENVIRON", .table 1)]
  { shared := .ofList pairs, tables := #[argumentTable, environmentTable] }

/-- Gives variables the values that options ask for. -/
def prepare (settings : List (String × String)) : Records.Run Unit :=
  settings.forM fun (name, text) => do
    if name = "FS" ∨ name = "RS" then
      let source := Records.unescape text
      if 1 < source.length then
        if let .error mistake := Records.patternOf source then
          Records.Machine.refuse
            s!"line 0: regular expression compile failed ({mistake.text})\n{source}"
    Records.Machine.assignOuter name text

/-- Carries out what a call asks for. -/
def act (start : Start) (i : Invocation) : Effect Nat := do
  let sources ← if i.files ≠ [] then sourcesOf i.files
    else pure (.ok ((i.words.take 1).map fun text => ("", text)))
  let words := if i.files ≠ [] then i.words else i.words.tail
  match sources with
  | .error text => refuse text 2
  | .ok sources =>
    match Records.Reader.program sources with
    | .error messages =>
      messages.forM tell
      return 2
    | .ok program =>
      let machine := initialMachine ((← self).name :: words) (← environment)
      Records.runToEnd { program, start } (prepare i.settings) machine

end Report

/-- Carries out a program for the records of its input. -/
def awk (start : Start) (words : List String) : Effect Nat := do
  let name := ((← self).name.splitOn "/").getLastD ""
  modifySelf ({ · with name })
  if words = [] then
    complain Report.usage
    return 2
  match Report.invocation {} words with
  | .error text => refuse text 2
  | .ok i =>
    if i.asksUsage then
      print Report.usage
      return 0
    else if i.asksVersion then
      print "mawk 1.3.4 20240123\n"
      return 0
    else if i.files = [] ∧ i.words = [] then return 0
    else Report.act start i

end Programs

end FileScript.Shell
