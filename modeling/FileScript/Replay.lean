import FileScript.Registry
import FileScript.Script

/-!
# Replaying scripts

The statements of a script are carried out in order. Blank lines and lines that are no statements
have no effect but a line in the log. A statement that fails is reported and the next one is carried
out; only a fault in reading or writing ends a replay early. The status of a replay is that of its
last statement.
-/

namespace FileScript

/-- Where the output of a replay goes. -/
structure Sink where
  written : ByteArray := .empty
  /-- How many more bytes can be written; without a limit, any number. -/
  room : Option Nat := none
  /-- How much had been written at each flush, last first. -/
  flushes : List Nat := []
  /-- Whether this is also where shell commands print. -/
  shared : Bool := false

namespace Sink

/-- Whether a sink has room for `n` more bytes. -/
def fits (s : Sink) (n : Nat) : Bool := s.room.all (n ≤ ·)

/-- The sink after bytes were written to it, as many of them as it has room for. -/
def write (s : Sink) (bytes : ByteArray) : Sink :=
  match s.room with
  | none => { s with written := s.written ++ bytes }
  | some room =>
    { s with
      written := s.written ++ bytes.extract 0 (min room bytes.size)
      room := some (room - bytes.size) }

/-- Notes how much has been written. -/
def flush (s : Sink) : Sink := { s with flushes := s.written.size :: s.flushes }

end Sink

/-- The state of a replay. -/
structure Replay where
  frame : Frame
  sink : Sink
  /-- The status of the last statement. -/
  status : Int := 0

namespace Replay

/-- Steps of a replay, which can end it early. -/
abbrev Step := EStateM Fault Replay

instance : MonadLog Step where
  report entry := modify fun r => { r with frame := r.frame.report entry }

/-- Writes to the sink; a fault if it has no room for all of the bytes. -/
def write (bytes : ByteArray) : Step Unit := do
  let fits := (← get).sink.fits bytes.size
  modify fun r => { r with sink := r.sink.write bytes }
  unless fits do throw (.transfer "output limit")

/-- Moves what shell commands have printed to the sink, if it goes there. -/
def writePrinted : Step Unit := do
  let r ← get
  if r.sink.shared then
    set { r with
      frame := { r.frame with printed := .empty }
      sink := r.sink.write r.frame.printed }

/-- Carries out a statement and prints its result, or reports why it failed. -/
def dispatch (registry : Registry) (s : Statement) : Step Unit := do
  let args := ", ".intercalate s.args
  report .replay .debug s!"{s.command}({args})"
  let (result, frame) := (← get).frame.run (registry.execute s)
  modify ({ · with frame })
  writePrinted
  match result with
  | .ok output =>
    write output.render
    modify fun r => { r with sink := r.sink.flush, status := 0 }
  | .error fault =>
    report .replay .error s!"{s.command}: {fault.message} (rc = {fault.status})"
    modify ({ · with status := fault.status })

/-- Does what a line of a script says. -/
def line (registry : Registry) (line : List UInt8) : Step Unit := do
  let maxArgs := (← get).frame.session.maxArgs
  match Script.readLine registry.grammar maxArgs line with
  | .ok (.statement s) => dispatch registry s
  | .ok _ => return
  | .error fault => report .replay .error s!"failed to parse statement: {fault.message}"

/-- Ends a replay with the status of the last statement. -/
def finish : Step Int := do
  modify fun r => { r with sink := r.sink.flush }
  let status := (← get).status
  report .replay .debug s!"end of input, status {status}"
  return status

/-- Does what the lines of a script say and returns the status of the last statement. -/
def script (registry : Registry) (s : Script) : Step Int := do
  s.lines.forM (line registry)
  if let some text := s.fault then throw (.transfer text)
  finish

/-- Does what the lines of a source say, which is read piece by piece as they are needed. What the
statements do to the source meanwhile shows. `pending` has been read already. -/
def linesOf (registry : Registry) : (fuel : Nat) → Source → (pending : List UInt8) → Step Unit
  | 0, _, _ => return
  | fuel + 1, source, pending => do
    match pending.dropWhile (· != Script.lineFeed) with
    | _ :: rest =>
      line registry (pending.takeWhile (· != Script.lineFeed) ++ [Script.lineFeed])
      linesOf registry fuel source rest
    | [] =>
      match (← get).frame.host.readPiece source with
      | .error e => throw (.transfer e.message)
      | .ok (piece, source, host) =>
        modify fun r => { r with frame := { r.frame with host } }
        if piece.isEmpty then
          if pending = [] then return
          line registry pending
          linesOf registry fuel source []
        else linesOf registry fuel source (pending ++ piece.toList)

/-- How many steps the lines of a source may take: each line is one, and each piece. -/
def stepLimit : Nat := 100000000

/-- Does what the lines of a source say and returns the status of the last statement. -/
def source (registry : Registry) (source : Source) : Step Int := do
  linesOf registry stepLimit source []
  finish

end Replay

/-- Carries out a replay in a session: its status or the fault that ended it, the frame after it,
and what it printed. -/
def Frame.carryOut (f : Frame) (replay : Replay.Step Int) (sink : Sink) :
    Except Fault Int × Frame × Sink :=
  match replay { frame := f, sink } with
  | .ok status r => (.ok status, r.frame, r.sink)
  | .error fault r => (.error fault, r.frame, r.sink)

/-- Replays a script in a session. -/
def Frame.replay (f : Frame) (registry : Registry) (script : Script) (sink : Sink) :
    Except Fault Int × Frame × Sink :=
  f.carryOut (Replay.script registry script) sink

end FileScript
