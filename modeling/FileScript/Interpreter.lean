import FileScript.Request
import FileScript.Session
import FileScript.Shell.Schedule

/-!
# Carrying out requests

How each request acts on a session, and the registry of the built-in commands. Every request to the
store is reported before and after it is made.
-/

namespace FileScript

namespace Request

/-- A text for a log line: at most its first 45 bytes, in whole characters, with dots if it was
cut. -/
def preview (text : String) : String :=
  if text.utf8ByteSize ≤ 45 then text else String.ofList (cut 45 text.toList) ++ "..."
where
  /-- The leading characters that fit into a number of bytes. -/
  cut (room : Nat) : List Char → List Char
    | [] => []
    | c :: rest => if c.utf8Size ≤ room then c :: cut (room - c.utf8Size) rest else []

/-- The names in an attribute name list, where a zero byte ends each of them. Empty ones are left
out. -/
def splitNames (bytes : ByteArray) : List String :=
  (split bytes.toList).filterMap fun name =>
    if name = [] then none else String.fromUTF8? name.toByteArray
where
  /-- The stretches between zero bytes. -/
  split (bytes : List UInt8) : List (List UInt8) :=
    bytes.foldr (fun b pieces =>
      match b, pieces with
      | _, [] => [[b]]
      | 0, pieces => [] :: pieces
      | b, first :: more => (b :: first) :: more) [[]]

open FileScript.Action

/-- Asks for something in two steps, with an empty buffer for its size and then with a buffer of
that size. What is empty is not asked for again. -/
def fetch (label : String) (op : ByteArray → Store.Update (Nat × ByteArray)) :
    Action ByteArray := do
  report .xattrs .debug label
  let (size, _) ← reportStatus .xattrs s!"{label} size" (request fun _ => op .empty)
  if size = 0 then return .empty
  let (taken, buffer) ← reportStatus .xattrs label (request fun _ => op (Content.zeros size))
  return buffer.extract 0 taken

/-- A command text has to be shorter than this, in bytes. -/
def shellTextLimit : Nat := 131072

/-- Runs a shell command. What it prints goes to the standard streams of the program. -/
def runShell (command : String) : Action Output := do
  unless (← session).allowShell do throw .shellDisabled
  report .shell .debug s!"sh -c '{command}'"
  if '\x00' ∈ command.toList then throw (.transfer "nul byte found in provided data")
  if command.utf8ByteSize ≥ shellTextLimit then
    throw (.transfer "Argument list too long (os error 7)")
  let result := Shell.run (← get).host command
  modify fun f => { f with
    host := result.host
    printed := f.printed ++ result.output
    notices := f.notices.push (.text result.errors) }
  report .shell .debug s!"sh -c '{command}' rc = {result.code}"
  if result.code ≠ 0 then
    report .shell .error s!"sh -c '{command}' exited with {result.code}"
  return .text s!"{result.code}"

/-- Makes a request that yields nothing to print. -/
def silently (source : LogSource) (label : String) (op : Timespec → Store.Update Unit) :
    Action Output := do
  traced source label (request op)
  return .none

/-- Carries out a request. -/
def perform : Request → Action Output
  | create path mode => do
    let handle ← traced .files s!"create('{path}', {Numeral.octal mode})"
      (request (Store.create · path (.ofNat mode)))
    return .descriptor (← installFile handle)
  | openFile path flags => do
    let handle ← traced .files s!"open('{path}', {Numeral.hex flags})"
      (request (Store.openFile · path ⟨.ofNat flags⟩))
    return .descriptor (← installFile handle)
  | close fd => do
    traced .files s!"close({fd})" (closeFile fd)
    return .none
  | read fd offset count => do
    let handle ← fileAt fd
    traced .files s!"read({fd}, {offset}, {count})" do
      let handle ← request fun _ => Store.seek handle offset
      putFile fd handle
      let (bytes, handle) ← request fun _ => Store.read handle count
      putFile fd handle
      return .data bytes
  | write fd offset count text => do
    let handle ← fileAt fd
    traced .files s!"write({fd}, '{preview text}', {offset}, {count})" do
      let handle ← request fun _ => Store.seek handle offset
      putFile fd handle
      let handle ← request (Store.write · handle (text.toUTF8.extract 0 count))
      putFile fd handle
      return .count count
  | sync fd => do
    let handle ← fileAt fd
    silently .files s!"fsync({fd})" fun _ => Store.sync handle
  | truncateOpen fd size => do
    let handle ← fileAt fd
    silently .files s!"ftrunc({fd}, {size})" (Store.truncateOpen · handle size)
  | openDir path => do
    let handle ← traced .directories s!"opendir('{path}')" (request fun _ => Store.openDir path)
    return .descriptor (← installDir handle)
  | readDir fd count => do
    let handle ← dirAt fd
    traced .directories s!"readdir({fd}, {count})" do
      let (entries, handle) ← request fun _ => Store.readDir handle count
      putDir fd handle
      return .listing entries.length (entries.map DirEntry.line)
  | closeDir fd => do
    traced .directories s!"closedir({fd})" (Action.closeDir fd)
    return .none
  | mkdir path mode =>
    silently .directories s!"mkdir('{path}', {Numeral.octal mode})"
      (Store.mkdir · path (.ofNat mode))
  | rmdir path => silently .directories s!"rmdir('{path}')" (Store.rmdir · path)
  | access path mode =>
    silently .paths s!"access('{path}', {Numeral.octal mode})"
      fun _ => Store.access path (.ofNat mode)
  | chmod path mode =>
    silently .paths s!"chmod('{path}', {Numeral.octal mode})" (Store.chmod · path (.ofNat mode))
  | chown path uid => silently .paths s!"chown('{path}', {uid})" (Store.chown · path uid)
  | stat path => do
    let attributes ← traced .paths s!"stat('{path}')" (request fun _ => Store.stat path)
    return .text attributes.line
  | truncate path size => silently .paths s!"trunc('{path}', {size})" (Store.truncate · path size)
  | unlink path => silently .paths s!"unlink('{path}')" (Store.unlink · path)
  | rename source target =>
    silently .paths s!"rename('{source}', '{target}')" (Store.rename · source target)
  | utime path accessed modified =>
    silently .paths s!"utime('{path}', {accessed}, {modified})"
      (Store.utime · path { seconds := accessed } { seconds := modified })
  | getXattr path name => do
    return .value (← fetch s!"getxattr('{path}', '{name}')" (Store.getXattr path name))
  | setXattr path name flags value =>
    silently .xattrs s!"setxattr('{path}', '{name}', '{preview value}', {Numeral.hex flags})"
      (Store.setXattr · path name value.toUTF8 ⟨.ofNat flags⟩)
  | removeXattr path name =>
    silently .xattrs s!"removexattr('{path}', '{name}')" (Store.removeXattr · path name)
  | listXattr path => do
    let names ← fetch s!"listxattr('{path}')" (Store.listXattr path)
    return .listing names.size (splitNames names)
  | shell command => runShell command

end Request

namespace Builtin

/-- A built-in command as it stands in a registry. -/
def command (b : Builtin) : Command where
  toSynopsis := b.synopsis
  run args := do (← Action.ofExcept (Request.ofArgs b args)).perform

/-- The registry of the built-in commands. -/
def registry : Registry := .ofList (all.map command)

end Builtin

end FileScript
