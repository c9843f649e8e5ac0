import FileScript.Errno

/-!
# Faults of statements

Everything that can stop a statement, or the reading of a script or of a configuration. A refusal
by the store is passed on unchanged; every other fault counts as one of the store's errors when it
is reported as a status (`Fault.errno`).
-/

namespace FileScript

/-- Why a statement, a script or a configuration is not carried out. -/
inductive Fault where
  /-- The input could not be read or the output not be written. -/
  | transfer (text : String)
  /-- The line is not a statement. -/
  | invalidStatement (reason : String)
  /-- No command has this name. -/
  | unknownCommand (name : String)
  /-- The command takes another number of arguments. -/
  | arity (command : String) (expected got : Nat)
  /-- The token is not an unsigned 64-bit number. -/
  | badNumber (token : String)
  /-- The token is not an octal permission mode. -/
  | badMode (token : String)
  /-- Every slot of the descriptor table is taken. -/
  | tableFull (capacity : Nat)
  /-- The slot of the descriptor table is vacant. -/
  | badDescriptor (index : Nat)
  /-- Shell statements are switched off. -/
  | shellDisabled
  /-- The settings do not allow a session. -/
  | badSettings (reason : String)
  /-- The configuration text has no meaning. -/
  | badSyntax
  /-- The store refused the request. -/
  | refused (errno : Errno)
  deriving DecidableEq, Repr, Inhabited

namespace Fault

/-- The text of a fault. -/
def message : Fault → String
  | transfer text => s!"I/O error: {text}"
  | invalidStatement reason => s!"invalid statement: {reason}"
  | unknownCommand name => s!"unknown command: {name}"
  | arity command expected got => s!"{command}: expected {expected} argument(s), got {got}"
  | badNumber token => s!"not an unsigned integer: '{token}'"
  | badMode token => s!"not an octal mode: '{token}'"
  | tableFull capacity => s!"descriptor table full ({capacity} slots)"
  | badDescriptor index => s!"bad descriptor: {index}"
  | shellDisabled => "shell commands are disabled"
  | badSettings reason => s!"config error: {reason}"
  | badSyntax => "TOML parse error"
  | refused errno => errno.message

/-- The error that a fault counts as. -/
def errno : Fault → Errno
  | transfer _ => .inputOutput
  | invalidStatement _ | unknownCommand _ | arity .. | badNumber _ | badMode _ => .invalidArgument
  | tableFull _ => .tooManyOpenFiles
  | badDescriptor _ => .badDescriptor
  | shellDisabled => .notPermitted
  | badSettings _ | badSyntax => .invalidArgument
  | refused errno => errno

/-- The status that a fault reports. -/
def status (f : Fault) : Int := f.errno.status

theorem status_neg (f : Fault) : f.status < 0 := f.errno.status_neg

end Fault

end FileScript
