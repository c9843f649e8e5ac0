import FileScript.Log
import FileScript.Store.Operation

/-!
# Volumes

A store as a session sees it: every request is counted, and is made at the time that the clock
shows at that count. The closing of handles can be made to fail, which leaves the handle open in
the store.
-/

namespace FileScript

/-- A store with its clock and the count of the requests made to it. -/
structure Volume where
  store : Store
  /-- The time of each request. -/
  clock : Nat → Timespec
  /-- How many requests have been made. -/
  requests : Nat := 0
  /-- Whether closing a handle fails. -/
  failsClose : Bool := false
  /-- At which counts closing fails, if it does. -/
  failing : Nat → Bool := fun _ => true

namespace Volume

/-- A volume with an empty store. -/
def new (clock : Nat → Timespec) (uid gid : Nat := 0) : Volume where
  store := .new (clock 0) uid gid
  clock := clock

/-- Makes a request at the time that the clock shows. -/
def request {α : Type} (v : Volume) (op : Timespec → Store.Update α) : Except Errno α × Volume :=
  match op (v.clock v.requests) v.store with
  | .ok a store => (.ok a, { v with store, requests := v.requests + 1 })
  | .error e store => (.error e, { v with store, requests := v.requests + 1 })

/-- Whether a request to close a handle fails at a count. -/
def failsCloseAt (v : Volume) (count : Nat) : Bool := v.failsClose && v.failing count

/-- Makes a request to close a handle. -/
def requestClose (v : Volume) (op : Store.Update Unit) : Except Errno Unit × Volume :=
  if v.failsCloseAt v.requests then (.error .inputOutput, { v with requests := v.requests + 1 })
  else v.request fun _ => op

/-- The number of an inode that was dropped between two states of a store. No request drops more
than one. -/
def dropped? (before after : Store) : Option Nat :=
  if after.inodes.size < before.inodes.size then
    before.inodes.keys.find? fun ino => !after.inodes.contains ino
  else none

/-- The log line about a request that led from one state of a store to another: it tells which inode
was dropped. -/
def dropLog (before after : Store) : Option LogEntry :=
  (dropped? before after).map fun ino =>
    { level := .trace, source := .store, text := s!"released inode {ino}" }

end Volume

end FileScript
