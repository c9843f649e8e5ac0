import FileScript.Shell.Editing.Reader
import FileScript.Shell.Editing.Running
import FileScript.Shell.Programs.Whole

/-!
# The editor for lines

A program that edits the lines of texts as a script says. What comes out is printed, or takes the
place of the text in its file.
-/

namespace FileScript.Shell

namespace Programs

open Effect

namespace Editor

/-- How the editor is used. -/
def usage : String :=
  "Usage: sed [OPTION]... \x7bscript-only-if-no-other-script\x7d [input-file]...\n\n" ++
  "  -n, --quiet, --silent\n                 suppress automatic printing of pattern space\n" ++
  "      --debug\n                 annotate program execution\n" ++
  "  -e script, --expression=script\n" ++
  "                 add the script to the commands to be executed\n" ++
  "  -f script-file, --file=script-file\n" ++
  "                 add the contents of script-file to the commands to be executed\n" ++
  "  --follow-symlinks\n                 follow symlinks when processing in place\n" ++
  "  -i[SUFFIX], --in-place[=SUFFIX]\n" ++
  "                 edit files in place (makes backup if SUFFIX supplied)\n" ++
  "  -l N, --line-length=N\n" ++
  "                 specify the desired line-wrap length for the \x60l' command\n" ++
  "  --posix\n                 disable all GNU extensions.\n" ++
  "  -E, -r, --regexp-extended\n" ++
  "                 use extended regular expressions in the script\n" ++
  "                 (for portability use POSIX -E).\n" ++
  "  -s, --separate\n" ++
  "                 consider files as separate rather than as a single,\n" ++
  "                 continuous long stream.\n" ++
  "      --sandbox\n                 operate in sandbox mode (disable e/r/w commands).\n" ++
  "  -u, --unbuffered\n" ++
  "                 load minimal amounts of data from the input files and flush\n" ++
  "                 the output buffers more often\n" ++
  "  -z, --null-data\n                 separate lines by NUL characters\n" ++
  "      --help     display this help and exit\n" ++
  "      --version  output version information and exit\n\n" ++
  "If no -e, --expression, -f, or --file option is given, then the first\n" ++
  "non-option argument is taken as the sed script to interpret.  All\n" ++
  "remaining arguments are names of input files; if no input files are\n" ++
  "specified, then the standard input is read.\n\n" ++
  "GNU sed home page: <https://www.gnu.org/software/sed/>.\n" ++
  "General help using GNU software: <https://www.gnu.org/gethelp/>.\n"

/-- The options. -/
def known : List Known :=
  [flag 'b' "binary", flag 'E' "regexp-extended", { flag 'r' with key := "regexp-extended" },
    long "debug", flag 'i' "in-place" .ownValue, valued 'e' "expression", valued 'f' "file",
    valued 'l' "line-length", flag 'z' "null-data", also "null-data" "zero-terminated",
    flag 'n' "quiet", long "posix", also "quiet" "silent", long "sandbox", flag 's' "separate",
    flag 'u' "unbuffered", long "follow-symlinks"]

/-- The lines of a text. -/
def linesOf (ending : Char) (text : String) : List Editing.Line :=
  let parts := text.splitOn ending.toString
  let line (ended : Bool) (part : String) : Editing.Line := { text := Octets.pieces part, ended }
  parts.dropLast.map (line true) ++
    if parts.getLastD "" = "" then [] else [line false (parts.getLastD "")]

/-- The pieces of the script that options name; or what is said if one cannot be read, with the
pieces before it. -/
def chunksOf : List (String × String) → Effect (List Editing.Chunk × Option String)
  | [] => return ([], none)
  | (key, value) :: rest => do
    let chunk ← if key = "expression" then pure (Except.ok { text := value }) else
      match ← readFile value with
      | .ok text => pure (.ok ({ file := some value, text } : Editing.Chunk))
      | .error (.opening reason) => pure (.error s!"couldn't open file {value}: {reason}")
      | .error (.reading reason) => pure (.error s!"read error on {value}: {reason}")
    match chunk with
    | .error text => return ([], some text)
    | .ok chunk =>
      let (others, failure) ← chunksOf rest
      return (chunk :: others, failure)

/-- Opens the files to which a script writes. Yields what is said if one cannot be opened. -/
def openFiles : List String → Effect (Option String)
  | [] => return none
  | path :: rest => do
    if path ∈ ["/dev/stdout", "/dev/stderr"] then return ← openFiles rest
    match ← writeFile path "" false with
    | some reason => return some s!"couldn't open file {path}: {reason}"
    | none => openFiles rest

/-- The files that a script reads. -/
def pathsIn (script : Editing.Script) : List String :=
  (script.toList.filterMap fun command =>
    match command.action with
    | .readFile path | .readLine path => some path
    | _ => none).eraseDups

/-- A file that is edited. -/
def source (ending : Char) (inPlace : Bool) (path : String) : Effect Editing.Source := do
  if path = "-" ∧ !inPlace then
    match ← unread 0 with
    | .ok bytes => return { name := "-", lines := .ok (linesOf ending (Octets.ofBytes bytes)) }
    | .error reason =>
      return { name := "-", lines := .error (s!"read error on stdin: {reason}", 4) }
  else
    match ← find path with
    | .error e => return { name := path, lines := .error (s!"can't read {path}: {e.text}", 2) }
    | .ok (_, .directory) =>
      let text := if inPlace then s!"couldn't edit {path}: not a regular file"
        else s!"read error on {path}: {FolderError.isADirectory.text}"
      return { name := path, lines := .error (text, 4) }
    | .ok (_, .file bytes) =>
      return { name := path, lines := .ok (linesOf ending (Octets.ofBytes bytes)) }
    | .ok (_, .input) =>
      match ← readAll 0 with
      | .ok text => return { name := path, lines := .ok (linesOf ending text) }
      | .error reason =>
        return { name := path, lines := .error (s!"read error on {path}: {reason}", 4) }
    | .ok _ => return { name := path, lines := .ok [] }

/-- The path at which a file is kept as it was. -/
def backupPath (suffix path : String) : String :=
  let name := lastPart path
  let directory := path.toList.take (path.length - name.length)
  let kept := if suffix.contains '*' then suffix.replace "*" name else name ++ suffix
  if kept.contains '/' ∧ suffix.contains '*' then kept else String.ofList directory ++ kept
where
  /-- The last name in a path. -/
  lastPart (path : String) : String := (path.splitOn "/").getLastD ""

/-- Puts a text in the place of a file. Yields what is said if that fails. -/
def replaceFile (suffix path text : String) : Effect (Option String) := do
  match ← findEntry path, ← find path with
  | .ok (place, _), .ok (_, .file old) =>
    if suffix ≠ "" then
      if let some reason ← writeFile (backupPath suffix path) (Octets.ofBytes old) false then
        return some s!"cannot rename {path}: {reason}"
    replaceFileAt place (Octets.toBytes text)
    return none
  | _, _ => return none

/-- Lets happen what a script does. `inPlace` is what is added to the name of a file that is kept,
if files are edited in place. `held` is what is printed into the current file. -/
def follow (inPlace : Option String) : (held : String) → List Editing.Event → Effect Nat
  | _, [] => return 0
  | held, event :: rest => do
    match event with
    | .print text =>
      if inPlace.isSome then follow inPlace (held ++ text) rest
      else
        print text
        follow inPlace held rest
    | .write path text =>
      match path with
      | "/dev/stdout" => print text
      | "/dev/stderr" => complain text
      | _ => discard (writeFile path text true)
      follow inPlace held rest
    | .complain text =>
      tell text
      follow inPlace held rest
    | .finish path =>
      match ← replaceFile (inPlace.getD "") path held with
      | some text => refuse text 4
      | none => follow inPlace "" rest

/-- Passes what has been read of the standard input. -/
def passInput (setting : Editing.Setting) (result : Editing.Result) : Effect Unit := do
  match ← unread 0 with
  | .error _ => return
  | .ok bytes =>
    let size ← match result.left with
      | none => pure bytes.size
      | some taken =>
        if ← seekable 0 then
          let lines := ((Octets.ofBytes bytes).splitOn setting.ending.toString).take taken
          pure (total (lines.map (·.length + 1)))
        else pure (if taken = 0 then 0 else bytes.size)
    passBytes 0 (min size bytes.size)

/-- Edits as a call says. -/
def act (call : Call) : Effect Nat := do
  let given := call.options.filter fun (key, _) => key = "expression" ∨ key = "file"
  if given = [] ∧ call.operands = [] then
    complain usage
    return 1
  let (chunks, failure) ← if given ≠ [] then chunksOf given else
    pure ((call.operands.take 1).map fun text => { text }, none)
  let operands := if given ≠ [] then call.operands else call.operands.tail
  let extended := call.has "regexp-extended"
  let reading := Editing.readScript extended (call.has "sandbox") chunks
  if let some text ← openFiles reading.files then return ← refuse text 4
  let script ← match reading.result, failure with
    | .error (text, status), none => return ← refuse text status
    | _, some text => return ← refuse text 4
    | .ok script, none => pure script
  let inPlace := call.value? "in-place"
  if inPlace.isSome ∧ operands = [] then return ← refuse "no input files" 4
  let ending := if call.has "null-data" then '\x00' else '\n'
  let inputs := if operands = [] then ["-"] else operands
  let sources ← inputs.mapM (source ending inPlace.isSome)
  let texts ← (pathsIn script).filterMapM fun path => do
    match ← readFile (if path = "/dev/stdin" then "-" else path) with
    | .ok text => return some (path, text)
    | .error _ => return none
  let width := (call.value? "line-length").map fun word => (Integer.digits 10 word.toList).1
  let setting : Editing.Setting := {
    script, ending, texts, inPlace := inPlace.isSome
    silent := call.has "quiet" || reading.silent
    separate := call.has "separate" || inPlace.isSome
    width := width.getD 70
    place := Editing.placeText true 0 (total (chunks.map (·.text.length + 1))) chunks }
  let result := Editing.result setting sources
  if "-" ∈ inputs ∧ inPlace.isNone then passInput setting result
  let failed ← follow inPlace "" result.events
  return if failed = 0 then result.status else failed

end Editor

/-- Edits lines as a script says. -/
def sed (words : List String) : Effect Nat := do
  match Call.read Editor.known (← isOrdered) none words with
  | .error text =>
    tell text
    complain Editor.usage
    return 1
  | .ok call =>
    if call.has "help" then
      print Editor.usage
      return 0
    else if call.has "version" then return 0
    else Editor.act call

end Programs

end FileScript.Shell
