import FileScript.CommandLine.Program
import Std.Time.DateTime.Timestamp

/-!
# The command line

Collects the surroundings of the program, runs it, and prints what it leaves behind. The folder that
the program sees holds the files that its options name.
-/

namespace FileScript.CommandLine

/-- Everything that a stream still has. -/
partial def readToEnd (stream : IO.FS.Stream) (bytes : ByteArray := .empty) : IO ByteArray := do
  let more ← stream.read 65536
  if more.isEmpty then return bytes else readToEnd stream (bytes ++ more)

/-- What there is at a path, if anything. -/
def readItem? (path : String) : IO (Option FolderItem) := do
  match ← (IO.FS.readBinFile path).toBaseIO with
  | .ok bytes => return some (.file bytes)
  | .error (.noFileOrDirectory ..) => return none
  | .error (.inappropriateType ..) => return some .directory
  | .error e => throw e

/-- The folder with the files that the options name. -/
def readFolder (paths : List String) : IO Folder := do
  let base := Path.components (← IO.currentDir).toString
  let items ← paths.filterMapM fun path => do return (← readItem? path).map (path, ·)
  return .ofItems base items

/-- The variables of the environment that the program looks at. -/
def readEnvironment : IO (List (String × String)) :=
  [Surroundings.configVariable, Surroundings.filterVariable, "HOME", "PATH"].filterMapM
    fun name => do return (← IO.getEnv name).map (name, ·)

/-- The time of day. -/
def currentTime : IO Timespec := do
  let elapsed := (← Std.Time.Timestamp.now).toDurationSinceUnixEpoch
  return { seconds := elapsed.second.toInt.toNat, nanoseconds := elapsed.nano.toInt.toNat }

/-- The program as it is called from a command line. -/
def runHere (args : List String) : IO UInt32 := do
  let environment ← readEnvironment
  let options := (Options.ofArgs args).toOption.getD { help := true }
  let configFile := options.configFile? (environment.lookup Surroundings.configVariable)
  let paths := options.scripts ++ configFile.toList
  let folder ← readFolder (if options.help then [] else paths.filter (· ≠ "-"))
  let input ← if options.help then pure .empty else readToEnd (← IO.getStdin)
  let now ← currentTime
  let outcome := Surroundings.run {
    args, host := { folder, input, environment }, clock := fun _ => now
    stamp := now.stamp }
  (← IO.getStdout).write outcome.output
  (← IO.getStderr).write outcome.errors
  return outcome.exit.toUInt32

end FileScript.CommandLine

/-- Runs the program. -/
def main (args : List String) : IO UInt32 := FileScript.CommandLine.runHere args
