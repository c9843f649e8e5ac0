import FileScript.Builtin
import FileScript.Numeral

/-!
# Requests of statements

What the built-in commands ask for, with their arguments read. Reading the arguments touches
nothing, so a statement whose arguments are refused has no effect.
-/

namespace FileScript

/-- What a statement with a built-in command asks for. -/
inductive Request where
  | create (path : String) (mode : Nat)
  | openFile (path : String) (flags : Nat)
  | close (fd : Nat)
  | read (fd offset count : Nat)
  /-- Only the first `count` bytes of the text are written. -/
  | write (fd offset count : Nat) (text : String)
  | sync (fd : Nat)
  | truncateOpen (fd size : Nat)
  | openDir (path : String)
  | readDir (fd count : Nat)
  | closeDir (fd : Nat)
  | mkdir (path : String) (mode : Nat)
  | rmdir (path : String)
  | access (path : String) (mode : Nat)
  | chmod (path : String) (mode : Nat)
  | chown (path : String) (uid : Nat)
  | stat (path : String)
  | truncate (path : String) (size : Nat)
  | unlink (path : String)
  | rename (source target : String)
  | utime (path : String) (accessed modified : Nat)
  | getXattr (path name : String)
  | setXattr (path name : String) (flags : Nat) (value : String)
  | removeXattr (path name : String)
  | listXattr (path : String)
  | shell (command : String)
  deriving DecidableEq, Repr, Inhabited

namespace Request

/-- The number that a token denotes. -/
def number (token : String) : Except Fault Nat :=
  match Numeral.word? token with
  | some n => .ok n
  | none => .error (.badNumber token)

/-- The permissions that a token denotes. -/
def mode (token : String) : Except Fault Nat :=
  match Numeral.mode? token with
  | some n => .ok n
  | none => .error (.badMode token)

/-- The read, write and execute permissions of one class that a token denotes. -/
def accessMode (token : String) : Except Fault Nat := do
  let n ← mode token
  if n ≤ 0o7 then return n else throw (.badMode token)

/-- Succeeds if a text has at least `count` bytes. -/
def checkLength (text : String) (count : Nat) : Except Fault Unit :=
  if count ≤ text.utf8ByteSize then .ok ()
  else .error (.invalidStatement
    s!"write: length {count} exceeds the {text.utf8ByteSize} byte(s) of data")

/-- Reads the arguments of a built-in command, from left to right. -/
def ofArgs : Builtin → List String → Except Fault Request
  | .create, [path, m] => return create path (← mode m)
  | .openFile, [path, flags] => return openFile path (← number flags)
  | .close, [fd] => return close (← number fd)
  | .read, [fd, offset, count] => return read (← number fd) (← number offset) (← number count)
  | .write, [fd, offset, count, text] => do
    let fd ← number fd
    let offset ← number offset
    let count ← number count
    checkLength text count
    return write fd offset count text
  | .sync, [fd] => return sync (← number fd)
  | .truncateOpen, [fd, size] => return truncateOpen (← number fd) (← number size)
  | .openDir, [path] => return openDir path
  | .readDir, [fd, count] => return readDir (← number fd) (← number count)
  | .closeDir, [fd] => return closeDir (← number fd)
  | .mkdir, [path, m] => return mkdir path (← mode m)
  | .rmdir, [path] => return rmdir path
  | .access, [path, m] => return access path (← accessMode m)
  | .chmod, [path, m] => return chmod path (← mode m)
  | .chown, [path, uid] => return chown path (← number uid)
  | .stat, [path] => return stat path
  | .truncate, [path, size] => return truncate path (← number size)
  | .unlink, [path] => return unlink path
  | .rename, [source, target] => return rename source target
  | .utime, [path, accessed, modified] => return utime path (← number accessed) (← number modified)
  | .getXattr, [path, name] => return getXattr path name
  | .setXattr, [path, name, flags, value] => return setXattr path name (← number flags) value
  | .removeXattr, [path, name] => return removeXattr path name
  | .listXattr, [path] => return listXattr path
  | .shell, [command] => return shell command
  | b, args => throw (.arity b.synopsis.name b.synopsis.arity args.length)

end Request

end FileScript
