import FileScript.CommandLine.LogLine
import FileScript.CommandLine.Options
import FileScript.Interpreter
import FileScript.Replay
import FileScript.Settings.Toml

/-!
# The program

A run of the program as a function of its surroundings: the arguments, the host and the clock.
Scripts are replayed one after the other in one session on an empty store, and the program succeeds
if the status of the last one is zero.
-/

namespace FileScript.CommandLine

/-- What a run of the program depends on. -/
structure Surroundings where
  args : List String
  host : Host := {}
  clock : Nat → Timespec := fun _ => {}
  /-- The time of day that the lines of the log show. -/
  stamp : String := ""

/-- Why a run of the program breaks off: what it was about to do, if that can be said, and the
reasons, the nearest first. -/
structure Failure where
  text : String
  causes : List String := []
  deriving DecidableEq, Repr, Inhabited

namespace Failure

/-- A failure as it is printed. Several causes are numbered. -/
def report (f : Failure) : String :=
  s!"Error: {f.text}\n" ++
    match f.causes with
    | [] => ""
    | [cause] => s!"\nCaused by:\n    {cause}\n"
    | causes =>
      "\nCaused by:\n" ++ String.join (causes.zipIdx.map fun (cause, i) => s!"    {i}: {cause}\n")

/-- The causes behind a fault. -/
def causesOf (fault : Fault) : List String :=
  match fault with
  | .transfer text => [fault.message, text]
  | .badSyntax => [fault.message, "the text does not describe settings"]
  | _ => [fault.message]

/-- The failure to do something, because of a fault. -/
def ofFault (text : String) (fault : Fault) : Failure := { text, causes := causesOf fault }

end Failure

/-- What a run of the program leaves behind. -/
structure Outcome where
  exit : Nat
  output : ByteArray
  /-- What was printed to the standard error stream, the lines of the log among it. -/
  errors : ByteArray

namespace Surroundings

/-- The variable of the environment that names a file with settings. -/
def configVariable : String := "FSREPL_CONFIG"

/-- The variable of the environment that holds the log filter. -/
def filterVariable : String := "RUST_LOG"

/-- The settings that a file holds, and the host after it was read. -/
def readSettings (s : Surroundings) (path : String) : Except Fault (Settings × Host) :=
  match s.host.find path >>= s.host.readAll with
  | .error e => .error (.transfer e.message)
  | .ok (bytes, host) => do
    let some text := String.fromUTF8? bytes
      | .error (.transfer "stream did not contain valid UTF-8")
    return (← Settings.ofToml text, host)

/-- The settings for the session, and the host after they were read. -/
def settings (s : Surroundings) (options : Options) :
    ExceptT Failure (StateM Notices) (Settings × Host) := do
  match options.configFile? (s.host.lookup? configVariable) with
  | none => return ({}, s.host)
  | some path =>
    match s.readSettings path with
    | .ok (settings, host) =>
      report .settings .debug s!"loaded config from {path}: {settings.line}"
      return (settings, host)
    | .error fault => throw (.ofFault s!"failed to load config {path}" fault)

/-- The state of a run while it replays scripts. -/
structure Replaying where
  frame : Frame
  sink : Sink
  /-- The status of the last script. -/
  status : Int := 0

/-- A part of a run that replays scripts. -/
abbrev Replaying.Step := EStateM Failure Replaying

instance : MonadLog Replaying.Step where
  report entry := modify fun r => { r with frame := r.frame.report entry }

/-- Replays a script from where it is read. -/
def Replaying.replay (source : Source) (text : String) : Replaying.Step Unit := do
  let r ← get
  let (result, frame, sink) := r.frame.carryOut (Replay.source Builtin.registry source) r.sink
  set { r with frame, sink }
  match result with
  | .ok status => modify ({ · with status })
  | .error fault => throw (.ofFault text fault)

/-- Replays the script that an argument names. -/
def Replaying.replayArgument (argument : String) : Replaying.Step Unit := do
  if argument = "-" then replay .input "failed to read stdin"
  else
    report .program .info s!"replaying {argument}"
    match (← get).frame.host.openSource argument with
    | .error e => throw { text := s!"failed to open {argument}", causes := [e.message] }
    | .ok (source, host) =>
      modify fun r => { r with frame := { r.frame with host } }
      replay source s!"failed to replay {argument}"

/-- Replays the scripts that the options name; without any, the standard input. -/
def Replaying.replayAll (scripts : List String) : Replaying.Step Unit :=
  (if scripts = [] then ["-"] else scripts).forM replayArgument

/-- What the program prints when it is asked for help. -/
def helpText : String := s!"{usage}\n\ncommands:\n{Builtin.registry.help}\n"

/-- Carries out a session: the failure that ended it, if any, and the state after it, when every
handle has been closed. -/
def session (s : Surroundings) (options : Options) (settings : Settings) (notices : Notices) :
    Option Failure × Replaying :=
  let frame : Frame := { session := .new settings (.new s.clock), host := s.host, notices }
  let start : Replaying := { frame, sink := { shared := true } }
  match Replaying.replayAll options.scripts start with
  | .ok () r => (none, { r with frame := (r.frame.run Action.teardown).2 })
  | .error failure r => (some failure, { r with frame := (r.frame.run Action.teardown).2 })

/-- Runs the program. -/
def run (s : Surroundings) : Outcome :=
  let (filter, warnings) := match s.host.lookup? filterVariable with
    | some text => LogFilter.parse text
    | none => (.standard, [])
  let warned := String.join (warnings.map (· ++ "\n"))
  let finish (exit : Nat) (output : ByteArray) (notices : Notices) (ending : String) : Outcome :=
    let errors := warned.toUTF8 ++ notices.printed filter s.stamp ++ ending.toUTF8
    { exit, output, errors }
  match Options.ofArgs s.args with
  | .error e => finish 1 .empty #[] (Failure.report { text := e.message })
  | .ok options =>
    if options.help then finish 0 helpText.toUTF8 #[] ""
    else
      let (result, notices) := (s.settings options).run.run #[]
      match result with
      | .error failure => finish 1 .empty notices failure.report
      | .ok (settings, host) =>
        let s := { s with host }
        let configured : StateM Notices Unit :=
          report .program .debug s!"session config: {settings.line}"
        let (failure, r) := s.session options settings (configured.run notices).2
        let host := r.frame.host
        let finishLate (exit : Nat) (notices : Notices) (ending : String) : Outcome :=
          let outcome := finish exit (r.sink.written ++ host.lateOutput) notices ending
          { outcome with errors := outcome.errors ++ host.lateErrors }
        match failure with
        | some failure => finishLate 1 r.frame.notices failure.report
        | none =>
          let ended : StateM Notices Unit := report .program .info s!"final status {r.status}"
          finishLate (if r.status = 0 then 0 else 1) (ended.run r.frame.notices).2 ""

end Surroundings

end FileScript.CommandLine
