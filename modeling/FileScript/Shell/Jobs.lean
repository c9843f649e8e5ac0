import FileScript.Shell.Settings

/-!
# Processes and signals

A command can be run in a process of its own, which begins with a copy of what its parent has. A
process ends with a status or by a signal. Signals can be ignored or caught: then a command is run
in answer to them.
-/

namespace FileScript.Shell

namespace Jobs

open Effect

/-- What a process does about a signal. -/
def receive (signal : Nat) : Effect Unit := do
  if signal = 0 ∨ signal ∈ (← self).ignored then return
  let traps := (← self).traps.filter fun _ => signal ≠ 9
  match traps.lookup signal with
  | some "" => return
  | some _ => modifySelf fun p => { p with caught := p.caught.filter (· ≠ signal) ++ [signal] }
  | none =>
    unless signal ∈ Signal.harmless ∨ (19 ≤ signal ∧ signal ≤ 22) do throw (.killed signal)

/-- Takes the signals that were sent to the process while it waited. -/
def receiveSent : Effect Unit := do
  let number := (← self).number
  let mine := (← shared).sent.filter (·.1 = number)
  unless mine = [] do
    modifyShared fun s => { s with sent := s.sent.filter (·.1 ≠ number) }
    mine.forM fun (_, signal) => receive signal

/-- Waits, and takes the signals that came in the meantime. -/
def await (wake : Wake) : Effect Unit := do
  pause wake
  receiveSent

/-- How often the sleep of a process can be interrupted. -/
def interruptions : Nat := 100000

/-- Waits until a moment. -/
def sleepUntil (moment : Nat) : Effect Unit := go interruptions
where
  /-- Waits again after each interruption. -/
  go : Nat → Effect Unit
    | 0 => return
    | fuel + 1 => do
      if (← shared).host.clock < moment then
        await (.time moment)
        go fuel

/-! ## Processes -/

/-- A number for a new process. -/
def newNumber : Effect Nat := do
  let number := (← shared).nextProcess
  modifyShared ({ · with nextProcess := number + 1 })
  return number

/-- What a new process begins with. -/
def childOf (p : Process) (number : Nat) : Process :=
  { p with
    number
    ancestors := p.number :: p.ancestors
    traps := p.traps.filter (·.2 = "")
    caught := []
    jobs := [] }

/-- Runs a command as a process to its end, and tells how that ended. `atEnd` is what the process
does at last. -/
def toEnd (act : Effect Unit) (atEnd : Effect Unit) : Effect Ending := do
  let result ← attempt do
    match ← attempt act with
    | .error (.killed signal) => throw (.killed signal)
    | .error .exhausted => throw .exhausted
    | _ => atEnd
  match result with
  | .error (.killed signal) => return .killed signal
  | .error .exhausted => throw .exhausted
  | _ => return .exited ((← self).status % 256)

/-- Runs a command in a process of its own, and tells how that ended. -/
def inProcess (act : Effect Unit) (atEnd : Effect Unit) : Effect Ending := do
  let parent ← self
  let number ← newNumber
  giveTurn
  modifySelf (childOf · number)
  let ending ← ensuring (toEnd act atEnd) (modifySelf fun _ => parent)
  return ending

/-! ## Jobs -/

/-- The slot of a new job: the first one that is free. A job that has ended and been waited for
makes room for another one. -/
def takeSlot : Effect Nat := do
  let jobs := (← self).jobs
  let isFree (slot : Nat) : Bool :=
    jobs.all fun job => job.slot ≠ slot || (job.waited && job.ending.isSome)
  let slot := ((List.range (jobs.length + 1)).find? fun i => isFree (i + 1)).getD jobs.length + 1
  modifySelf fun p => { p with jobs := p.jobs.filter (·.slot ≠ slot) }
  return slot

/-- Takes note of the jobs that have ended. -/
def collect : Effect Unit := do
  let ended := (← shared).ended
  unless ended = [] do
    let numbers := (← self).jobs.map (·.number)
    modifySelf fun p => { p with
      jobs := p.jobs.map fun job => { job with ending := job.ending.or (ended.lookup job.number) } }
    modifyShared fun s => { s with
      ended := s.ended.filter (·.1 ∉ numbers)
      alive := s.alive.filter fun (number, _) =>
        number ∉ numbers || (ended.lookup number).isNone }

/-- Says how a process ended, if a signal ended it. -/
def report (ending : Ending) : Effect Unit := do
  if let .killed signal := ending then
    let text := Signal.farewell signal
    unless text = "" do complain s!"{text}\n"

/-- Takes note of how a process ended for which the shell has waited. -/
def settle (ending : Ending) : Effect Nat := do
  discard takeSlot
  report ending
  collect
  receiveSent
  return ending.status

/-- The descriptors that a command leads elsewhere before it does anything. -/
def redirectedBy : Command → List Nat
  | .simple _ _ _ redirections | .redirected _ _ redirections =>
    redirections.map fun
      | .file descriptor .. | .duplicate descriptor _ | .document descriptor _ => descriptor
  | _ => []

/-- Lets a command run in the background, as a job. -/
def launch (body : Command) (targets : List (Nat × Target)) : Effect Unit := do
  let number ← newNumber
  let process := childOf (← self) number
  let own := targets.map (·.1) ++ redirectedBy body
  let streams := (process.descriptors.filter (·.1 ∉ own)).map (·.2)
  let width := match body with
    | .pipeline commands => commands.length
    | _ => 1
  let slot ← takeSlot
  modifyShared fun s => { s with
    launched := s.launched ++ [{ process, body, targets }]
    alive := s.alive ++ [(number, streams)] }
  modifySelf fun p => { p with
    jobs := { slot, number, width } :: p.jobs, lastJob := some number }

/-- Waits until no process in the background writes to a stream any more. -/
def drain (stream : Nat) : Effect Unit := go interruptions
where
  /-- Waits again after each process. -/
  go : Nat → Effect Unit
    | 0 => return
    | fuel + 1 => do
      let s ← shared
      let writers := s.alive.filter fun (number, streams) =>
        stream ∈ streams && (s.ended.lookup number).isNone
      unless writers = [] do
        await (.ending (writers.map (·.1)))
        go fuel

/-- Changes a job. -/
def modifyJob (slot : Nat) (change : Job → Job) : Effect Unit :=
  modifySelf fun p => { p with
    jobs := p.jobs.map fun job => if job.slot = slot then change job else job }

/-- The job that a word refers to. -/
def jobOf (word : String) : Effect Job := do
  let jobs := (← self).jobs
  let absent {α : Type} : Effect α := fail s!"No such job: {word}"
  match word.toList with
  | ['%'] | ['%', '%'] | ['%', '+'] =>
    match jobs with
    | job :: _ => return job
    | [] => fail "No current job"
  | ['%', '-'] =>
    match jobs with
    | _ :: job :: _ => return job
    | _ => fail "No previous job"
  | '%' :: digits =>
    match (String.ofList digits).toNat? with
    | some slot =>
      match jobs.find? (·.slot = slot) with
      | some job => return job
      | none => absent
    | none => absent
  | _ => absent

/-- The status that comes from a signal that has been caught. -/
def caughtStatus? : Effect (Option Nat) := do
  return (← self).caught.getLast?.map (128 + ·)

/-- Waits for a job. A signal that is caught ends the waiting. -/
def waitForJob : Nat → Job → Effect (Option Nat)
  | 0, _ => return none
  | fuel + 1, job => do
    if job.ending.isSome then return none
    if let none := (← shared).ended.lookup job.number then
      await (.ending [job.number])
      if let some status ← caughtStatus? then return some status
    match (← shared).ended.lookup job.number with
    | some ending =>
      report ending
      collect
      return none
    | none => waitForJob fuel job

/-- Waits for all jobs. A signal that is caught ends the waiting. -/
def waitForAll : Nat → Effect Nat
  | 0 => return 0
  | fuel + 1 => do
    collect
    let running := (← self).jobs.filter (·.ending.isNone)
    if running = [] then
      modifySelf fun p => { p with jobs := p.jobs.map ({ · with waited := true }) }
      return 0
    await (.ending (running.map (·.number)))
    if let some status ← caughtStatus? then return status
    waitForAll fuel

/-- Waits for processes in the background. -/
def wait (words : List String) : Effect Nat := do
  let (_, words) ← options [] words
  if words = [] then waitForAll interruptions else waitForEach 127 words
where
  /-- Waits for the jobs that words refer to, one after the other. -/
  waitForEach (status : Nat) : List String → Effect Nat
    | [] => return status
    | word :: rest => do
      let job? ← if word.startsWith "%" then some <$> jobOf word else do
        let number ← natural word
        pure ((← self).jobs.find? (·.number = number))
      match job? with
      | none => waitForEach status rest
      | some job =>
        if let some status ← waitForJob interruptions job then return status
        modifyJob job.slot ({ · with waited := true })
        let ending := ((← self).jobs.find? (·.slot = job.slot)).bind (·.ending)
        waitForEach ((ending.map Ending.status).getD 127) rest

/-- The word for how a job is doing. -/
def Job.text (job : Job) : String :=
  match job.ending with
  | none => "Running"
  | some (.exited 0) => "Done"
  | some (.exited status) => s!"Done({status})"
  | some (.killed signal) => Signal.description signal

/-- Prints how jobs are doing. A job that has ended is forgotten then. -/
def list (words : List String) : Effect Nat := do
  let (found, words) ← options ['l', 'p'] words
  let style := (found.getLast?.map (·.1)).getD ' '
  if words = [] then
    collect
    (← self).jobs.forM fun job => tell style job.slot
  else words.forM fun word => do tell style (← jobOf word).slot
  return 0
where
  /-- Prints how the job of a slot is doing. -/
  tell (style : Char) (slot : Nat) : Effect Unit := do
    let jobs := (← self).jobs
    let some job := jobs.find? (·.slot = slot) | return
    let first := job.number + 1 - job.width
    if style = 'p' then print s!"{first}\n"
    else
      let mark := if jobs.head?.any (·.slot = slot) then "+"
        else if jobs.tail.head?.any (·.slot = slot) then "-" else " "
      let number := if style = 'l' then s!"{first} " else ""
      let lead := s!"[{slot}] {mark} {number}{Job.text job}"
      let others := (List.range (job.width - 1)).map fun i =>
        if style = 'l' then
          let start := " |\n" ++ "".pushn ' ' (s!"[{slot}]   ".length) ++ s!"{first + 1 + i} "
          start ++ "".pushn ' ' (33 - (start.length - 3))
        else " | "
      print (lead ++ "".pushn ' ' (33 - lead.length) ++ String.join others ++ "\n")
      unless job.ending.isNone do
        modifySelf fun p => { p with jobs := p.jobs.filter (·.slot ≠ slot) }

/-! ## Signals -/

/-- Sets what is done in answer to signals, or prints it. -/
def trap (words : List String) : Effect Nat := do
  let (_, words) ← options [] words
  match words with
  | [] =>
    let traps := (← self).traps.mergeSort fun a b => a.1 ≤ b.1
    traps.forM fun (signal, action) =>
      print s!"trap -- {quoted action} {Signal.name signal}\n"
    return 0
  | first :: rest =>
    let isSignal := rest = [] ∨ first ≠ "" ∧ first.all Char.isDigit
      ∧ (Signal.ofText? first 0).isSome
    let action := if isSignal ∨ first = "-" then none else some first
    setAll action (if isSignal then words else rest)
where
  /-- Sets what is done in answer to each signal. -/
  setAll (action : Option String) : List String → Effect Nat
    | [] => return 0
    | word :: rest => do
      match Signal.ofText? word 0 with
      | none =>
        complain s!"trap: {word}: bad trap\n"
        return 1
      | some signal =>
        modifySelf fun p => { p with
          traps := (action.map (signal, ·)).toList ++ p.traps.filter (·.1 ≠ signal) }
        setAll action rest

/-- Fails with the ways to send a signal. -/
def killUsage : Effect Nat :=
  fail "Usage: kill [-s sigspec | -signum | -sigspec] [pid | job]... or\nkill -l [exitstatus]"

/-- Sends a signal to a process, if there is one with the number. -/
def send (signal number : Nat) : Effect Bool := do
  let p ← self
  if number = p.number then
    receive signal
    return true
  else if number ∈ p.ancestors ∨ ((← shared).alive.lookup number).isSome then
    modifyShared fun s => { s with sent := s.sent ++ [(number, signal)] }
    return true
  else return false

/-- Sends a signal to processes, or prints the names of signals. -/
def kill (words : List String) : Effect Nat := do
  match words with
  | [] => killUsage
  | first :: rest =>
    let direct := if first.startsWith "-" then Signal.ofText? (String.ofList first.toList.tail) 1
      else none
    match direct with
    | some signal => sendAll signal rest
    | none =>
      let (found, words) ← options ['l'] words ['s']
      let named := (found.filter (·.1 = 's')).getLast?
      let signal? ← match named with
        | some (_, name) =>
          match Signal.ofText? name 1 with
          | some signal => pure (some signal)
          | none => fail s!"invalid signal number or name: {name}"
        | none => pure none
      if found.any (·.1 = 'l') then
        if signal?.isSome then killUsage else tell words
      else sendAll (signal?.getD 15) words
where
  /-- Prints the name of a signal, or all of them. -/
  tell : List String → Effect Nat
    | [] => do
      print "0\n"
      Signal.names.tail.forM fun name => print (name ++ "\n")
      return 0
    | word :: _ => do
      let n ← natural word
      let signal := if n > 128 then n - 128 else n
      if 0 < signal ∧ signal < Signal.names.length then
        print (Signal.name signal ++ "\n")
        return 0
      else fail s!"invalid signal number or exit status: {word}"
  /-- Sends a signal to several processes. -/
  sendAll (signal : Nat) (words : List String) : Effect Nat := do
    if words = [] then killUsage
    else
      let statuses ← words.mapM fun word => do
        let group := word.startsWith "-" || word.startsWith "%"
        let number ← if word.startsWith "%" then (·.number) <$> jobOf word
          else natural (if group then String.ofList word.toList.tail else word)
        if !group ∧ (← send signal number) then return 0
        else
          warn "No such process\n"
          return 1
      return statuses.foldl max 0

end Jobs

end FileScript.Shell
