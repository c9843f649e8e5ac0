import FileScript.Log
import FileScript.Regex.Meaning

/-!
# Log filters

Which log lines the program prints. A filter is written as directives separated by commas. A
directive is a level, which is meant for all parts of the program, or a target with or without a
level, which is meant for the parts whose names begin with the target. The directive with the
longest target decides. A regular expression after a slash lets only those lines through in which it
is found.
-/

namespace FileScript

/-- The name of a part of the program, as log filters use it. -/
def LogSource.target : LogSource → String
  | .program => "fsrepl"
  | .settings => "fsrepl_types::config"
  | .replay => "fsrepl_interp::driver"
  | .session => "fsrepl_interp::session"
  | .table => "fsrepl_interp::table"
  | .files => "fsrepl_interp::file_commands"
  | .directories => "fsrepl_interp::dir_commands"
  | .paths => "fsrepl_interp::path_commands"
  | .xattrs => "fsrepl_interp::xattr_commands"
  | .shell => "fsrepl_interp::shell_commands"
  | .store => "fsrepl_storage::memory"

namespace CommandLine

/-- How detailed log lines may be. -/
structure LogDirective where
  /-- The parts of the program that are meant; all, if there is no target. -/
  target : Option String
  /-- The greatest `LogLevel.detail` that is let through. -/
  detail : Nat
  deriving DecidableEq, Repr, Inhabited

/-- A filter for log lines. -/
structure LogFilter where
  /-- The directives, those with shorter targets first. -/
  directives : List LogDirective
  /-- What has to be found in every line. -/
  pattern : Option Regex.Pattern := none

namespace LogDirective

/-- The length of the target, by which directives are ranked. -/
def rank (d : LogDirective) : Nat := (d.target.map String.utf8ByteSize).getD 0

/-- Whether the lines of a part of the program are meant. -/
def covers (d : LogDirective) (source : LogSource) : Bool :=
  d.target.all fun target => source.target.startsWith target

/-- The detail that a word allows; none if it names no level. -/
def detail? (word : String) : Option Nat :=
  match String.ofList (word.toList.map Char.toLower) with
  | "off" => some 0
  | "error" => some 1
  | "warn" => some 2
  | "info" => some 3
  | "debug" => some 4
  | "trace" => some 5
  | _ => none

/-- A text without the white space around it. -/
def trim (text : String) : String :=
  String.ofList ((text.toList.dropWhile Unicode.isWhiteSpace).reverse.dropWhile
    Unicode.isWhiteSpace).reverse

/-- The directive that a text denotes, or the part of it that has no meaning. -/
def parse (text : String) : Except String LogDirective :=
  match text.splitOn "=" with
  | [word] =>
    match detail? word with
    | some detail => .ok { target := none, detail }
    | none => .ok { target := some word, detail := 5 }
  | [target, level] =>
    let level := trim level
    if level = "" then .ok { target := some target, detail := 5 }
    else match detail? level with
      | some detail => .ok { target := some target, detail }
      | none => .error level
  | _ => .error text

end LogDirective

namespace LogFilter

/-- The filter that is used when none is asked for. -/
def standard : LogFilter := { directives := [{ target := none, detail := 3 }] }

/-- The directives after one more; it takes the place of one with the same target. -/
def add (directives : List LogDirective) (d : LogDirective) : List LogDirective :=
  if directives.any (·.target = d.target) then
    directives.map fun old => if old.target = d.target then d else old
  else directives ++ [d]

/-- The directives that a text denotes, in the order of their ranks, and the parts of it that have
no meaning. Without any, errors are let through. -/
def directivesOf (text : String) : List LogDirective × List String :=
  let parts := (text.splitOn ",").map LogDirective.trim |>.filter (· ≠ "")
  let parsed := parts.map LogDirective.parse
  let accepted := (parsed.filterMap Except.toOption).foldl add []
  let rejected := parsed.filterMap fun
    | .ok _ => none
    | .error part => some part
  (if accepted = [] then [{ target := none, detail := 1 }]
    else accepted.mergeSort (·.rank ≤ ·.rank), rejected)

/-- The filter that a text denotes, and warnings about the parts of the text that are ignored. -/
def parse (text : String) : LogFilter × List String :=
  let warning (what : String) := s!"warning: {what}, ignoring it"
  match text.splitOn "/" with
  | _ :: _ :: _ :: _ =>
    ({ directives := (directivesOf "").1 },
      [warning s!"invalid logging spec '{text}' (too many '/'s)"])
  | head :: rest =>
    let (directives, rejected) := directivesOf head
    let warnings := rejected.map fun part => warning s!"invalid logging spec '{part}'"
    match rest.head?.map Regex.Pattern.ofExpression with
    | none => ({ directives }, warnings)
    | some (.ok pattern) => ({ directives, pattern := some pattern }, warnings)
    | some (.error report) =>
      ({ directives }, warnings ++ [warning s!"invalid regex filter - {report}"])
  | [] => (standard, [])

/-- Whether a filter lets a line through. -/
def allows (f : LogFilter) (e : LogEntry) : Bool :=
  (match f.directives.reverse.find? (·.covers e.source) with
    | some d => e.level.detail ≤ d.detail
    | none => false)
  && f.pattern.all (·.occursIn e.text)

end LogFilter

end CommandLine

end FileScript
