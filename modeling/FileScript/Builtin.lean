import FileScript.Registry

/-!
# Built-in commands

The names of the commands that every script can use, and how the list of commands describes them.
-/

namespace FileScript

/-- A built-in command. -/
inductive Builtin where
  | create
  | openFile
  | close
  | read
  | write
  | sync
  | truncateOpen
  | openDir
  | readDir
  | closeDir
  | mkdir
  | rmdir
  | access
  | chmod
  | chown
  | stat
  | truncate
  | unlink
  | rename
  | utime
  | getXattr
  | setXattr
  | removeXattr
  | listXattr
  | shell
  deriving DecidableEq, Repr, Inhabited

namespace Builtin

/-- All built-in commands. -/
def all : List Builtin := [
  create, openFile, close, read, write, sync, truncateOpen,
  openDir, readDir, closeDir, mkdir, rmdir,
  access, chmod, chown, stat, truncate, unlink, rename, utime,
  getXattr, setXattr, removeXattr, listXattr,
  shell]

theorem mem_all (b : Builtin) : b ∈ all := by
  cases b <;> decide

/-- How a command presents itself to its users. -/
def synopsis : Builtin → Synopsis
  | create => {
    name := "create", category := "file", arity := 2, usage := "create PATH MODE"
    description := "Create a file, open it read/write, and print its descriptor" }
  | openFile => {
    name := "open", category := "file", arity := 2, usage := "open PATH FLAGS"
    description := "Open a file with numeric flags and print its descriptor" }
  | close => {
    name := "close", category := "file", arity := 1, usage := "close FD"
    description := "Close a file descriptor" }
  | read => {
    name := "read", category := "file", arity := 3, usage := "read FD OFFSET LEN"
    description := "Read up to LEN bytes at OFFSET and print them" }
  | write => {
    name := "write", category := "file", arity := 4, takesTail := true
    usage := "write FD OFFSET LEN DATA..."
    description := "Write the first LEN bytes of DATA at OFFSET" }
  | sync => {
    name := "sync", category := "file", arity := 1, usage := "sync FD"
    description := "Flush a file descriptor" }
  | truncateOpen => {
    name := "ftrunc", category := "file", arity := 2, usage := "ftrunc FD SIZE"
    description := "Truncate an open file to SIZE bytes" }
  | openDir => {
    name := "opendir", category := "directory", arity := 1, usage := "opendir PATH"
    description := "Open a directory and print its descriptor" }
  | readDir => {
    name := "readdir", category := "directory", arity := 2, usage := "readdir DFD MAX"
    description := "List the next batch of at most MAX entries" }
  | closeDir => {
    name := "closedir", category := "directory", arity := 1, usage := "closedir DFD"
    description := "Close a directory descriptor" }
  | mkdir => {
    name := "mkdir", category := "directory", arity := 2, usage := "mkdir PATH MODE"
    description := "Create a directory" }
  | rmdir => {
    name := "rmdir", category := "directory", arity := 1, usage := "rmdir PATH"
    description := "Remove an empty directory" }
  | access => {
    name := "access", category := "metadata", arity := 2, usage := "access PATH MODE"
    description := "Check permission bits (octal, 0 = exists)" }
  | chmod => {
    name := "chmod", category := "metadata", arity := 2, usage := "chmod PATH MODE"
    description := "Change permission bits" }
  | chown => {
    name := "chown", category := "metadata", arity := 2, usage := "chown PATH OWNER"
    description := "Change the owner id" }
  | stat => {
    name := "stat", category := "metadata", arity := 1, usage := "stat PATH"
    description := "Print the attributes of a path on one line" }
  | truncate => {
    name := "trunc", category := "metadata", arity := 2, usage := "trunc PATH SIZE"
    description := "Truncate a path to SIZE bytes" }
  | unlink => {
    name := "unlink", category := "metadata", arity := 1, usage := "unlink PATH"
    description := "Remove a file" }
  | rename => {
    name := "rename", category := "metadata", arity := 2, usage := "rename OLD NEW"
    description := "Rename a file or directory" }
  | utime => {
    name := "utime", category := "metadata", arity := 3, usage := "utime PATH ATIME MTIME"
    description := "Set access and modification times (seconds since the epoch)" }
  | getXattr => {
    name := "getxattr", category := "xattr", arity := 2, usage := "getxattr PATH NAME"
    description := "Print the length and value of an attribute" }
  | setXattr => {
    name := "setxattr", category := "xattr", arity := 4, takesTail := true
    usage := "setxattr PATH NAME FLAGS VALUE..."
    description := "Set an attribute to the rest of the line (flags: 1 create, 2 replace)" }
  | removeXattr => {
    name := "removexattr", category := "xattr", arity := 2, usage := "removexattr PATH NAME"
    description := "Remove an attribute" }
  | listXattr => {
    name := "listxattr", category := "xattr", arity := 1, usage := "listxattr PATH"
    description := "Print the byte length of the name list, then one name per line" }
  | shell => {
    name := "shell", category := "system", arity := 1, takesTail := true
    usage := "shell COMMAND..."
    description := "Run a shell command and print its exit code" }

end Builtin

end FileScript
