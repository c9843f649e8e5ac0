/-!
# Signals
-/

namespace FileScript.Shell.Signal

/-- The names of the signals, in the order of their numbers. Those without a name have their numbers
as names. The first stands for the end of the shell. -/
def names : List String :=
  ["EXIT", "HUP", "INT", "QUIT", "ILL", "TRAP", "ABRT", "BUS", "FPE", "KILL", "USR1", "SEGV",
    "USR2", "PIPE", "ALRM", "TERM", "16", "CHLD", "CONT", "STOP", "TSTP", "TTIN", "TTOU", "URG",
    "XCPU", "XFSZ", "VTALRM", "PROF", "WINCH", "IO", "PWR", "SYS", "32", "33", "RTMIN"] ++
  (List.range 15).map (fun n => s!"RTMIN+{n + 1}") ++
  (List.range 14).reverse.map (fun n => s!"RTMAX-{n + 1}") ++ ["RTMAX"]

/-- The name of a signal. -/
def name (signal : Nat) : String := names[signal]?.getD (toString signal)

/-- The signal that a name or a number denotes. The smallest that counts is given. -/
def ofText? (text : String) (least : Nat) : Option Nat :=
  let upper := String.ofList (text.toList.map Char.toUpper)
  if text ≠ "" ∧ text.all Char.isDigit then text.toNat?.filter (· < names.length)
  else
    (names.zipIdx.find? fun (name, signal) => least ≤ signal ∧ name = upper).map (·.2)

/-- The signals that do not end a process. -/
def harmless : List Nat := [17, 18, 23, 28]

/-- What a signal means. -/
def description (signal : Nat) : String :=
  match signal with
  | 1 => "Hangup"
  | 2 => "Interrupt"
  | 3 => "Quit"
  | 4 => "Illegal instruction"
  | 5 => "Trace/breakpoint trap"
  | 6 => "Aborted"
  | 7 => "Bus error"
  | 8 => "Floating point exception"
  | 9 => "Killed"
  | 10 => "User defined signal 1"
  | 11 => "Segmentation fault"
  | 12 => "User defined signal 2"
  | 13 => "Broken pipe"
  | 14 => "Alarm clock"
  | 15 => "Terminated"
  | 16 => "Stack fault"
  | 24 => "CPU time limit exceeded"
  | 25 => "File size limit exceeded"
  | 26 => "Virtual timer expired"
  | 27 => "Profiling timer expired"
  | 29 => "I/O possible"
  | 30 => "Power failure"
  | 31 => "Bad system call"
  | n => if n ≥ 34 then s!"Real-time signal {n - 34}" else s!"Unknown signal {n}"

/-- What is said of a process that a signal has ended; of some there is nothing said. -/
def farewell (signal : Nat) : String := if signal = 2 ∨ signal = 13 then "" else description signal

end FileScript.Shell.Signal
