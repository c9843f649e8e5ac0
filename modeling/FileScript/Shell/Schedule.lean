import FileScript.Shell.Run

/-!
# Processes side by side

The processes in the background run side by side with the shell that started them. Only one of them
runs at a time, up to a point where it waits or ends; then the next one takes its turn. Time passes
only when all of them wait.
-/

namespace FileScript.Shell

/-- A process that waits, and how it goes on. -/
structure Waiting where
  self : Process
  wake : Wake
  /-- The process of which the end is asked for gives it at its end. -/
  next : State → Outcome (Option Ending)

/-- Whether a process can go on. -/
def Waiting.isReady (shared : Shared) (w : Waiting) : Bool :=
  shared.sent.any (·.1 = w.self.number) ||
    match w.wake with
    | .turn => true
    | .time moment => moment ≤ shared.host.clock
    | .ending numbers => numbers.any fun number => (shared.ended.lookup number).isSome

/-- The processes, and what they share. -/
structure Schedule where
  shared : Shared
  waiting : List Waiting
  /-- How the process ended of which the end is asked for. -/
  ending : Option Ending := none

namespace Schedule

open Effect

/-- What a process in the background does. -/
def background (run : Runner) (launch : Launch) : Effect (Option Ending) := do
  let result ← attempt <| Jobs.toEnd (do
    Jobs.receiveSent
    modifySelf fun p => { p with ignored := [2, 3] ++ p.ignored }
    connect 0 (some (← newStream { channel := .null, readable := true, writable := false }))
    Run.alone run .final launch.targets launch.body) (Run.finish run)
  let ending := match result with
    | .ok ending => ending
    | .error _ => .exited 2
  modifyShared fun s => { s with ended := s.ended ++ [(launch.process.number, ending)] }
  return none

/-- The processes together with those that are about to begin. -/
def withLaunched (run : Runner) (s : Schedule) : Schedule :=
  let fresh : List Waiting := s.shared.launched.map fun launch =>
    { self := launch.process, wake := .turn, next := background run launch }
  { s with shared := { s.shared with launched := [] }, waiting := s.waiting ++ fresh }

/-- Lets the first process that can go on do so; nothing if none can. -/
def turn? (run : Runner) (s : Schedule) : Option Schedule :=
  let s := s.withLaunched run
  match s.waiting.findIdx? (·.isReady s.shared) with
  | none => none
  | some i =>
    let others := s.waiting.eraseIdx i
    match s.waiting[i]? with
    | none => none
    | some w =>
      match w.next { shared := s.shared, self := w.self } with
      | .ok ending state =>
        some { shared := state.shared, waiting := others, ending := s.ending.or ending }
      | .error _ state =>
        some { shared := state.shared, waiting := others, ending := s.ending.or (some (.exited 2)) }
      | .pause wake state next =>
        some { s with
          shared := state.shared, waiting := others ++ [{ self := state.self, wake, next }] }

/-- Lets time pass up to the first moment that a process waits for; nothing if there is none. -/
def pass? (s : Schedule) : Option Schedule :=
  let moments := s.waiting.filterMap fun w =>
    match w.wake with
    | .time moment => some moment
    | _ => none
  moments.min?.map fun moment => { s with shared := { s.shared with host.clock := moment } }

/-- Lets processes go on as long as `goesOn` says so and one of them can. Time may pass or not. -/
def advance (run : Runner) (goesOn : Schedule → Bool) (timely : Bool) : Nat → Schedule → Schedule
  | 0, s => s
  | fuel + 1, s =>
    if !goesOn s then s
    else match s.turn? run with
      | some s => advance run goesOn timely fuel s
      | none =>
        match if timely then s.pass? else none with
        | some s => advance run goesOn timely fuel s
        | none => s

end Schedule

/-- What is left of a shell that has ended. -/
structure Result where
  /-- The exit code, or -1 if a signal ended the shell. -/
  code : Int
  output : ByteArray
  errors : ByteArray
  /-- The host as the shell leaves it. -/
  host : Host

/-- The variables that programs usually find in their environment. -/
def usualVariables : List (String × String) :=
  [("PATH", Lookup.usualPath), ("HOME", "/root")]

/-- The state in which a process begins that the program starts. -/
def initialState (host : Host) : State :=
  let named (pairs : List (String × String)) : List (String × Variable) :=
    pairs.map fun (name, value) =>
      (name, { value := some (Octets.ofString value), exported := true })
  let given := named host.environment
  let usual := (named usualVariables).filter fun (name, _) => (given.lookup name).isNone
  { shared := {
      host
      streams := #[{ channel := .input, readable := true, writable := false },
        { channel := .output, readable := false, writable := true },
        { channel := .errors, readable := false, writable := true }] }
    self := {
      bindings := given ++ usual, directory := host.folder.base
      route := host.folder.base
      descriptors := [(0, 0), (1, 1), (2, 2)] } }

/-- How often processes take turns while a shell runs. -/
def turns : Nat := 1000000

/-- How often processes take turns after a shell has ended. -/
def lateTurns : Nat := 10000

/-- Runs a command text in a new shell on a host. -/
def run (host : Host) (text : String) : Result :=
  let run := Run.execute Run.budget
  let act : Effect (Option Ending) := do
    return some (← Run.inProcess run (Run.shell run ["-c", Octets.ofString text]))
  let state := initialState host
  let start : Schedule :=
    { shared := state.shared, waiting := [{ self := state.self, wake := .turn, next := act }] }
  let ended := start.advance run (·.ending.isNone) true turns
  let quiet := ended.advance run (fun _ => true) false lateTurns
  let late := quiet.advance run (fun _ => true) true lateTurns
  let { output, errors, .. } := quiet.shared
  let last := late.shared
  { code := match ended.ending with
      | some (.exited status) => status
      | some (.killed _) => -1
      | none => 2
    output, errors
    host := { last.host with
      lateOutput := last.host.lateOutput ++ last.output.extract output.size last.output.size
      lateErrors := last.host.lateErrors ++ last.errors.extract errors.size last.errors.size } }

end FileScript.Shell
