import FileScript.DescriptorTable
import FileScript.Host
import FileScript.Settings
import FileScript.Volume

/-!
# Sessions

Everything that a statement may touch: the volume, and the tables of the handles that are open on
it. Statements run as actions, which change the session and write to the log; what an action did
before it failed is kept.
-/

namespace FileScript

/-- A volume with the handles that are open on it. -/
structure Session where
  volume : Volume
  files : DescriptorTable FileHandle
  dirs : DescriptorTable DirHandle
  /-- How many arguments a statement may have. -/
  maxArgs : Nat
  /-- Whether shell statements are carried out. -/
  allowShell : Bool

namespace Session

/-- A session without open handles. -/
def new (settings : Settings) (volume : Volume) : Session where
  volume := volume
  files := .empty settings.fileCapacity
  dirs := .empty settings.dirCapacity
  maxArgs := settings.maxArgs
  allowShell := settings.allowShell

end Session

/-- What running statements changes: the session, the host, the notices about them, and what shell
commands have printed. -/
structure Frame where
  session : Session
  host : Host := {}
  notices : Notices := #[]
  /-- What shell commands wrote to the standard output. -/
  printed : ByteArray := .empty

/-- The log of a frame. -/
def Frame.log (f : Frame) : Log := f.notices.log

/-- Notes a line of the log. -/
def Frame.report (f : Frame) (entry : LogEntry) : Frame :=
  { f with notices := f.notices.push (.entry entry) }

/-- A computation on a session that can fail. -/
abbrev Action := EStateM Fault Frame

namespace Action

instance : MonadLog Action where
  report entry := modify (·.report entry)

variable {α : Type}

/-- The session. -/
def session : Action Session := return (← get).session

/-- Changes the session. -/
def modifySession (change : Session → Session) : Action Unit :=
  modify fun f => { f with session := change f.session }

/-- Runs an action to its end, whether it fails or not. -/
def attempt (act : Action α) : Action (Except Fault α) := fun f =>
  match act f with
  | .ok a f => .ok (.ok a) f
  | .error fault f => .ok (.error fault) f

/-- Yields a result, or fails with its fault. -/
def ofExcept (result : Except Fault α) : Action α :=
  match result with
  | .ok a => return a
  | .error fault => throw fault

/-- Takes over the volume after a request, and reports the inode that the request dropped. -/
def settle (reply : Volume → Except Errno α × Volume) : Action (Except Errno α) := do
  let before := (← session).volume
  let (result, volume) := reply before
  if let some entry := Volume.dropLog before.store volume.store then
    MonadLog.report entry
  modifySession ({ · with volume })
  return result

/-- Makes a request to the store; fails if the store refuses it. -/
def request (op : Timespec → Store.Update α) : Action α := do
  ofExcept ((← settle (·.request op)).mapError .refused)

/-- Makes a request to close a file handle. -/
def closeHandle (handle : FileHandle) : Action (Except Errno Unit) :=
  settle (·.requestClose (Store.close handle))

/-- Makes a request to close a directory handle. -/
def closeDirHandle (handle : DirHandle) : Action (Except Errno Unit) :=
  settle (·.requestClose (Store.closeDir handle))

/-! ## Descriptors -/

/-- The file handle of a descriptor. -/
def fileAt (fd : Nat) : Action FileHandle := do
  ofExcept ((← session).files.lookup fd)

/-- The directory handle of a descriptor. -/
def dirAt (fd : Nat) : Action DirHandle := do
  ofExcept ((← session).dirs.lookup fd)

/-- Puts a moved file handle in the place of the one it came from. -/
def putFile (fd : Nat) (handle : FileHandle) : Action Unit :=
  modifySession fun s => { s with files := s.files.replace fd handle }

/-- Puts a moved directory handle in the place of the one it came from. -/
def putDir (fd : Nat) (handle : DirHandle) : Action Unit :=
  modifySession fun s => { s with dirs := s.dirs.replace fd handle }

/-- Gives a new file handle a descriptor. If the table is full, the handle is closed again. -/
def installFile (handle : FileHandle) : Action Nat := do
  let files := (← session).files
  match files.insert? handle with
  | some (index, files) =>
    modifySession ({ · with files })
    return index
  | none =>
    if let .error e ← closeHandle handle then
      report .session .warn s!"close of rejected file handle failed: {e.message}"
    throw (.tableFull files.capacity)

/-- Gives a new directory handle a descriptor. If the table is full, the handle is closed again. -/
def installDir (handle : DirHandle) : Action Nat := do
  let dirs := (← session).dirs
  match dirs.insert? handle with
  | some (index, dirs) =>
    modifySession ({ · with dirs })
    return index
  | none =>
    if let .error e ← closeDirHandle handle then
      report .session .warn s!"closedir of rejected directory handle failed: {e.message}"
    throw (.tableFull dirs.capacity)

/-- Closes a file and frees its descriptor. -/
def closeFile (fd : Nat) : Action Unit := do
  let files ← ofExcept (← (← session).files.release fd closeHandle)
  modifySession ({ · with files })

/-- Closes a directory and frees its descriptor. -/
def closeDir (fd : Nat) : Action Unit := do
  let dirs ← ofExcept (← (← session).dirs.release fd closeDirHandle)
  modifySession ({ · with dirs })

/-- Closes every open handle as far as possible, frees all descriptors and returns how many closes
failed. -/
def teardown : Action Nat := do
  let ofFiles ← (← session).files.closeAll closeHandle
  modifySession fun s => { s with files := s.files.clear }
  let ofDirs ← (← session).dirs.closeAll closeDirHandle
  modifySession fun s => { s with dirs := s.dirs.clear }
  let failures := ofFiles + ofDirs
  if failures > 0 then
    report .session .warn s!"{failures} handle(s) failed to close during teardown"
  return failures

/-! ## Reports on requests -/

/-- Reports the status with which an action ends. -/
def reportStatus (source : LogSource) (label : String) (act : Action α) : Action α := do
  let result ← attempt act
  let status := match result with
    | .ok _ => 0
    | .error fault => fault.status
  report source .debug s!"{label} rc = {status}"
  ofExcept result

/-- Reports that an action begins, and the status with which it ends. -/
def traced (source : LogSource) (label : String) (act : Action α) : Action α := do
  report source .debug label
  reportStatus source label act

end Action

/-- The result of an action on a frame, and the frame after it. -/
def Frame.run {α : Type} (f : Frame) (act : Action α) : Except Fault α × Frame :=
  match act f with
  | .ok a f => (.ok a, f)
  | .error fault f => (.error fault, f)

end FileScript
