import FileScript.Errno

/-!
# Log lines

What running a script reports besides its output.
-/

namespace FileScript

/-- How much attention a log line asks for. -/
inductive LogLevel where
  | error
  | warn
  | info
  | debug
  | trace
  deriving DecidableEq, Repr, Inhabited

namespace LogLevel

/-- The name of a level as it is printed. -/
def name : LogLevel → String
  | error => "ERROR"
  | warn => "WARN"
  | info => "INFO"
  | debug => "DEBUG"
  | trace => "TRACE"

/-- How detailed a level is: a filter that lets one level through lets all smaller ones through. -/
def detail : LogLevel → Nat
  | error => 1
  | warn => 2
  | info => 3
  | debug => 4
  | trace => 5

end LogLevel

/-- The parts of the program that report. -/
inductive LogSource where
  /-- The program as a whole. -/
  | program
  | settings
  /-- The reading of scripts. -/
  | replay
  | session
  /-- The tables of descriptors. -/
  | table
  /-- Statements about open files. -/
  | files
  /-- Statements about directories. -/
  | directories
  /-- Statements about what a path names. -/
  | paths
  /-- Statements about extended attributes. -/
  | xattrs
  /-- Shell statements. -/
  | shell
  | store
  deriving DecidableEq, Repr, Inhabited

/-- A line of the log. -/
structure LogEntry where
  level : LogLevel
  source : LogSource
  text : String
  deriving DecidableEq, Repr, Inhabited

namespace LogEntry

/-- A log line as it is told without its time and its source. -/
def line (e : LogEntry) : String := s!"{e.level.name} {e.text}"

end LogEntry

/-- The log lines of a run, in order. -/
abbrev Log := Array LogEntry

/-- Computations that can write to a log. -/
class MonadLog (m : Type → Type) where
  /-- Writes a line to the log. -/
  report : LogEntry → m Unit

instance : MonadLog (StateM Log) where
  report entry := modify (·.push entry)

instance {m : Type → Type} {ε : Type} [Monad m] [MonadLog m] : MonadLog (ExceptT ε m) where
  report entry := ExceptT.lift (MonadLog.report entry)

/-- Reports a line. -/
def report {m : Type → Type} [MonadLog m] (source : LogSource) (level : LogLevel) (text : String) :
    m Unit :=
  MonadLog.report { level, source, text }

/-- Something on the standard error stream. -/
inductive Notice where
  /-- A line of the log. -/
  | entry (e : LogEntry)
  /-- What a shell command wrote. -/
  | text (bytes : ByteArray)

/-- What goes to the standard error stream, in order. -/
abbrev Notices := Array Notice

namespace Notices

/-- The log lines among other notices. -/
def log (notices : Notices) : Log :=
  notices.filterMap fun
    | .entry e => some e
    | .text _ => none

instance : MonadLog (StateM Notices) where
  report entry := modify (·.push (.entry entry))

end Notices

end FileScript
