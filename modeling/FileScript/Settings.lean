import FileScript.Fault

/-!
# Settings of a session
-/

namespace FileScript

/-- The limits of a session, and whether it may run shell commands. -/
structure Settings where
  /-- How many arguments a statement may have. -/
  maxArgs : Nat := 10
  /-- How many files may be open at a time. -/
  fileCapacity : Nat := 1024
  /-- How many directories may be open at a time. -/
  dirCapacity : Nat := 1024
  /-- Whether shell statements are carried out. -/
  allowShell : Bool := false
  deriving DecidableEq, Repr, Inhabited

namespace Settings

/-- Settings with which a session can do anything at all. -/
def validate (s : Settings) : Except Fault Settings :=
  if s.maxArgs = 0 then .error (.badSettings "max_args must be at least 1")
  else if s.fileCapacity = 0 ∨ s.dirCapacity = 0 then
    .error (.badSettings "descriptor table capacity must be at least 1")
  else .ok s

/-- Settings as they are printed in the log. -/
def line (s : Settings) : String :=
  s!"ReplConfig \x7b max_args: {s.maxArgs}, file_capacity: {s.fileCapacity}, " ++
  s!"dir_capacity: {s.dirCapacity}, allow_shell: {s.allowShell} \x7d"

end Settings

end FileScript
